import Stagewright.Proofs.Code.Collision
import Stagewright.Proofs.Code.Wording

/-!
How statements begin. A statement begins with the variable that it is about, or else with words that
no variable begins with, so the beginning of its text tells what it does.
-/

namespace Stagewright.Code

/-- Words that statements about no variable begin with. -/
def openingWords : List String := ["log.", "context.", "if ", "raise ", "global_map[", "# ", "for "]

theorem Slot.lead_openingWords : ∀ slot ∈ Slot.all, ∀ word ∈ openingWords,
    slot.lead.isPrefixOf word.toList = false ∧ word.toList.isPrefixOf slot.lead = false := by
  decide +kernel

/-- None of the words begins another one. -/
theorem openingWords_apart : ∀ word ∈ openingWords, ∀ other ∈ openingWords,
    word.toList.isPrefixOf other.toList = true → word = other := by
  decide +kernel

/-- A variable and an opening word do not begin the same text. -/
theorem Slot.not_lead_of_word {slot : Slot} {word : String} (among : word ∈ openingWords)
    {text : List Char} (opens : word.toList <+: text) : ¬slot.lead <+: text := by
  intro leads
  obtain ⟨shorter, longer⟩ := Slot.lead_openingWords slot slot.mem_all word among
  rcases List.prefix_or_prefix_of_prefix leads opens with first | second
  · rw [List.isPrefixOf_iff_prefix.mpr first] at shorter
    exact Bool.noConfusion shorter
  · rw [List.isPrefixOf_iff_prefix.mpr second] at longer
    exact Bool.noConfusion longer

/-- Two variables begin the same text only if they are for the same thing, drivers and their classes
apart. -/
theorem Slot.eq_of_leads {s t : Slot} (single : t ≠ .driver ∧ t ≠ .driverClass) {text : List Char}
    (first : s.lead <+: text) (second : t.lead <+: text) : s = t := by
  rcases List.prefix_or_prefix_of_prefix first second with shorter | longer
  · rcases Slot.lead_prefix shorter with same | ⟨-, driverClass⟩
    · exact same
    · exact absurd driverClass single.2
  · rcases Slot.lead_prefix longer with same | ⟨driver, -⟩
    · exact same.symm
    · exact absurd driver single.1

namespace Statement

/-- The variable that a statement begins with: the one it binds, sets or acts on. -/
def subject? (s : Statement) : Option Local := s.pieces.head?.bind Piece.local?

/-- What a statement says about its subject. -/
def predicate (s : Statement) : String := String.join (s.pieces.tail.map Piece.text)

theorem text_of_pieces {s : Statement} {first : Piece} (begins : s.pieces.head? = some first) :
    s.text = first.text ++ s.predicate := by
  obtain ⟨rest, pieces⟩ := List.head?_eq_some_iff.mp begins
  rw [← s.join_pieces, predicate, pieces, List.map_cons, String.join_cons, List.tail_cons]

theorem text_of_subject {s : Statement} {x : Local} (about : s.subject? = some x) :
    s.text = x.text ++ s.predicate := by
  obtain ⟨piece, begins, named⟩ := Option.bind_eq_some_iff.mp about
  have same : piece.text = x.text := by
    cases piece with
    | named y => rw [Piece.text_named, Option.some.inj named]
    | _ => exact absurd named (by simp)
  rw [← same]
  exact text_of_pieces begins

/-- The word that a statement about no variable begins with. -/
def keyword? : Statement → Option String
  | .log _ _ _ => some "log."
  | .initPoolLog _ => some "context."
  | .whenPresent _ | .whenUnserved _ _ => some "if "
  | .raiseUnserved _ => some "raise "
  | .publish _ _ => some "global_map["
  | .withhold _ _ => some "# "
  | .eachCount _ _ => some "for "
  | _ => none

theorem opens_with_keyword {s : Statement} (own : ∀ source, s ≠ .verbatim source)
    (about : s.subject? = none) :
    ∃ word ∈ openingWords, s.keyword? = some word ∧ word.toList <+: s.text.toList := by
  have opens (word : String) {whole : String} (among : word ∈ openingWords)
      (begins : word.toList <+: whole.toList) (first : s.pieces.head? = some (.words whole))
      (named : s.keyword? = some word) :
      ∃ word ∈ openingWords, s.keyword? = some word ∧ word.toList <+: s.text.toList := by
    refine ⟨word, among, named, ?_⟩
    rw [text_of_pieces first, String.toList_append]
    exact begins.trans (List.prefix_append _ _)
  cases s with
  | log level message args => exact opens "log." (by decide) (by decide) rfl rfl
  | initPoolLog label => exact opens "context." (by decide) (by decide) rfl rfl
  | whenPresent x => exact opens "if " (by decide) (by decide) rfl rfl
  | whenUnserved sources name => exact opens "if " (by decide) (by decide) rfl rfl
  | raiseUnserved name => exact opens "raise " (by decide) (by decide) rfl rfl
  | publish key x => exact opens "global_map[" (by decide) (by decide) rfl rfl
  | withhold key x => exact opens "# " (by decide) (by decide) rfl rfl
  | eachCount each stmt => exact opens "for " (by decide) (by decide) rfl rfl
  | verbatim source => exact absurd rfl (own source)
  | _ => exact absurd about (by simp [subject?, pieces])

theorem lead_begins {s : Statement} {x : Local} (about : s.subject? = some x) :
    x.slot.lead <+: s.text.toList := by
  rw [text_of_subject about, String.toList_append, Local.toList_text, List.append_assoc]
  exact List.prefix_append _ _

/-- Only a statement that opens with a word begins with it. -/
theorem keyword_of_begins {s : Statement} {word : String} (own : ∀ source, s ≠ .verbatim source)
    (among : word ∈ openingWords) (begins : word.toList <+: s.text.toList) :
    s.keyword? = some word := by
  cases about : s.subject? with
  | some x => exact absurd (lead_begins about) (Slot.not_lead_of_word among begins)
  | none =>
    obtain ⟨other, amongOther, named, opens⟩ := opens_with_keyword own about
    have same : other = word := by
      rcases List.prefix_or_prefix_of_prefix opens begins with first | second
      · exact openingWords_apart other amongOther word among (List.isPrefixOf_iff_prefix.mpr first)
      · exact (openingWords_apart word among other amongOther
          (List.isPrefixOf_iff_prefix.mpr second)).symm
    rw [named, same]

theorem begins_of_keyword {s : Statement} {word : String} (named : s.keyword? = some word) :
    word.toList <+: s.text.toList := by
  have own (source : String) : s ≠ .verbatim source := by
    rintro rfl
    exact absurd named (by simp [keyword?])
  have about : s.subject? = none := by
    cases s <;> simp_all [keyword?, subject?, pieces]
  obtain ⟨other, -, same, opens⟩ := opens_with_keyword own about
  rw [Option.some.inj (named.symm.trans same)]
  exact opens

section Beginning

variable {s : Statement} {y : Local} (own : ∀ source, s ≠ .verbatim source)
  (theirs : ∀ x, s.subject? = some x → x.cid = y.cid)
  (single : y.slot ≠ .driver ∧ y.slot ≠ .driverClass)

include own theirs single

/-- A statement that begins with a variable of its stage is about that variable. -/
theorem about_of_begins {word : String} (begins : (y.text ++ word).toList <+: s.text.toList) :
    s.subject? = some y ∧ word.toList <+: s.predicate.toList := by
  have leads : y.slot.lead <+: s.text.toList := by
    refine List.IsPrefix.trans ?_ begins
    rw [String.toList_append, Local.toList_text, List.append_assoc]
    exact List.prefix_append _ _
  cases about : s.subject? with
  | none =>
    obtain ⟨word, among, -, opens⟩ := opens_with_keyword own about
    exact absurd leads (Slot.not_lead_of_word among opens)
  | some x =>
    have text := text_of_subject about
    have slot := Slot.eq_of_leads single (lead_begins about) leads
    have cid := theirs x about
    obtain rfl : x = y := by
      cases x
      cases y
      simp_all
    rw [text, String.toList_append, String.toList_append] at begins
    exact ⟨rfl, (List.prefix_append_right_inj _).mp begins⟩

theorem binds_of_begins (begins : (y.text ++ " = ").toList <+: s.text.toList) :
    ∃ e, s = .bind y e := by
  obtain ⟨about, told⟩ := about_of_begins own theirs single begins
  cases s with
  | bind x e =>
    obtain rfl := Option.some.inj about
    exact ⟨e, rfl⟩
  | add x e => exact absurd told (by simp [predicate, pieces])
  | setAutocommit x flag => exact absurd told (by simp [predicate, pieces])
  | effect x e => exact absurd told (by simp [predicate, pieces])
  | executeBatch x => exact absurd told (by simp [predicate, pieces])
  | _ => exact absurd about (by simp [subject?, pieces])

theorem reaches_of_begins (begins : (y.text ++ ".").toList <+: s.text.toList) :
    (∃ flag, s = .setAutocommit y flag) ∨ (∃ e, s = .effect y e) ∨ s = .executeBatch y := by
  obtain ⟨about, told⟩ := about_of_begins own theirs single begins
  cases s with
  | bind x e => exact absurd told (by simp [predicate, pieces])
  | add x e => exact absurd told (by simp [predicate, pieces])
  | setAutocommit x flag =>
    obtain rfl := Option.some.inj about
    exact .inl ⟨flag, rfl⟩
  | effect x e =>
    obtain rfl := Option.some.inj about
    exact .inr (.inl ⟨e, rfl⟩)
  | executeBatch x =>
    obtain rfl := Option.some.inj about
    exact .inr (.inr rfl)
  | _ => exact absurd about (by simp [subject?, pieces])

theorem sets_of_begins (begins : (y.text ++ ".autocommit = ").toList <+: s.text.toList) :
    ∃ flag, s = .setAutocommit y flag := by
  obtain ⟨about, told⟩ := about_of_begins own theirs single begins
  cases s with
  | bind x e => exact absurd told (by simp [predicate, pieces])
  | add x e => exact absurd told (by simp [predicate, pieces])
  | setAutocommit x flag =>
    obtain rfl := Option.some.inj about
    exact ⟨flag, rfl⟩
  | effect x e => cases e <;> exact absurd told (by simp [predicate, pieces, Effect.name])
  | executeBatch x => exact absurd told (by simp [predicate, pieces])
  | _ => exact absurd about (by simp [subject?, pieces])

end Beginning

end Statement

end Stagewright.Code
