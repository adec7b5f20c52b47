import Stagewright.Proofs.Text.Symbol
import Stagewright.Variable.Reference

/-!
The grammar of a reference, symbol by symbol, and that it is what is read at the start of a text.
-/

namespace Stagewright.Variable

open Text

/-- The symbols of a reference: those of its name, and those of a default if there is one. -/
structure Mention where
  name : List Symbol
  default : Option (List Symbol)

namespace Mention

/-- What follows the name. -/
def ending : Option (List Symbol) → List Symbol
  | none => [.char '}']
  | some default => .char '|' :: default ++ [.char '}']

/-- A reference as it stands in a text. -/
def text (m : Mention) : List Symbol := .char '$' :: .char '{' :: m.name ++ ending m.default

/-- Neither the name nor a default is empty. The name goes up to the first closing brace or bar, the
default up to the first closing brace. -/
structure WellFormed (m : Mention) : Prop where
  name_ne_nil : m.name ≠ []
  name : ∀ s ∈ m.name, s ≠ .char '}' ∧ s ≠ .char '|'
  default_ne_nil : ∀ d ∈ m.default, d ≠ []
  default : ∀ d ∈ m.default, ∀ s ∈ d, s ≠ .char '}'

/-- The characters of a reference. -/
def form (m : Mention) : Form := ⟨inChars m.name, m.default.map inChars⟩

theorem text_ne_nil (m : Mention) : m.text ≠ [] := List.cons_ne_nil _ _

theorem length_form (m : Mention) : m.form.length = (inChars m.text).length := by
  obtain ⟨name, default⟩ := m
  cases default with
  | none => simp [form, Form.length, text, ending, Symbol.written, halfMark]
  | some default =>
    simp [form, Form.length, text, ending, Symbol.written, halfMark]
    omega

end Mention

theorem isNameChar_half (place : Fin 0x800) : (Symbol.half place).every isNameChar = true := by
  refine List.all_eq_true.mpr fun c member => ?_
  have brace : c ≠ '}' := Symbol.ne_of_mem_half member (by decide)
  have bar : c ≠ '|' := Symbol.ne_of_mem_half member (by decide)
  simp [isNameChar, brace, bar]

theorem isDefaultChar_half (place : Fin 0x800) :
    (Symbol.half place).every isDefaultChar = true := by
  refine List.all_eq_true.mpr fun c member => ?_
  have brace : c ≠ '}' := Symbol.ne_of_mem_half member (by decide)
  simp [isDefaultChar, brace]

theorem every_isNameChar (s : Symbol) :
    s.every isNameChar = true ↔ s ≠ .char '}' ∧ s ≠ .char '|' := by
  cases s with
  | half place => simp [isNameChar_half place]
  | char c => simp [Symbol.every_char, isNameChar]

theorem every_isDefaultChar (s : Symbol) : s.every isDefaultChar = true ↔ s ≠ .char '}' := by
  cases s with
  | half place => simp [isDefaultChar_half place]
  | char c => simp [Symbol.every_char, isDefaultChar]

/-- Where symbols with a property are followed by one without it, they are the longest run of such
symbols. -/
theorem span_of_stop {p : Symbol → Bool} {run : List Symbol} {stop : Symbol}
    (all : ∀ s ∈ run, p s = true) (stops : ¬p stop = true) (tail : List Symbol) :
    (run ++ stop :: tail).takeWhile p = run ∧ (run ++ stop :: tail).dropWhile p = stop :: tail := by
  rw [List.takeWhile_append_of_pos all, List.dropWhile_append_of_pos all,
    List.takeWhile_cons_of_neg stops, List.dropWhile_cons_of_neg stops]
  exact ⟨List.append_nil run, rfl⟩

theorem inChars_isEmpty (text : List Symbol) : (inChars text).isEmpty = text.isEmpty := by
  cases text with
  | nil => rfl
  | cons s rest => simp [s.written_ne_nil]

/-- A text that begins with a reference is read as that reference. -/
theorem Mention.WellFormed.read? {m : Mention} (wellFormed : m.WellFormed) (tail : List Symbol) :
    Form.read? (inChars (m.text ++ tail)) = some m.form := by
  obtain ⟨name, default⟩ := m
  have named : ∀ s ∈ name, s.every isNameChar = true :=
    fun s member => (every_isNameChar s).mpr (wellFormed.name s member)
  have nonempty : (inChars name).isEmpty = false := by
    rw [inChars_isEmpty]
    exact List.isEmpty_eq_false_iff.mpr wellFormed.name_ne_nil
  cases default with
  | none =>
    have chars : inChars (text ⟨name, none⟩ ++ tail) =
        '$' :: '{' :: inChars (name ++ .char '}' :: tail) := by
      simp [text, ending, Symbol.written, halfMark]
    have span := span_inChars isNameChar_half (name ++ .char '}' :: tail)
    have stops : ¬(Symbol.char '}').every isNameChar = true := by simp [every_isNameChar]
    obtain ⟨run, rest⟩ := span_of_stop named stops tail
    rw [run, rest] at span
    have brace : inChars (.char '}' :: tail) = '}' :: inChars tail := rfl
    simp only [chars, Form.read?, span.1, span.2, nonempty, brace, form, Option.map_none]
    rfl
  | some default =>
    have defaulted : ∀ s ∈ default, s.every isDefaultChar = true :=
      fun s member => (every_isDefaultChar s).mpr (wellFormed.default default rfl s member)
    have nonemptyDefault : (inChars default).isEmpty = false := by
      rw [inChars_isEmpty]
      exact List.isEmpty_eq_false_iff.mpr (wellFormed.default_ne_nil default rfl)
    have chars : inChars (text ⟨name, some default⟩ ++ tail) =
        '$' :: '{' :: inChars (name ++ .char '|' :: (default ++ .char '}' :: tail)) := by
      simp [text, ending, Symbol.written, halfMark]
    have span := span_inChars isNameChar_half (name ++ .char '|' :: (default ++ .char '}' :: tail))
    have stops : ¬(Symbol.char '|').every isNameChar = true := by simp [every_isNameChar]
    obtain ⟨run, rest⟩ := span_of_stop named stops (default ++ .char '}' :: tail)
    rw [run, rest] at span
    have inner := span_inChars isDefaultChar_half (default ++ .char '}' :: tail)
    have stopsDefault : ¬(Symbol.char '}').every isDefaultChar = true := by
      simp [every_isDefaultChar]
    obtain ⟨run, rest⟩ := span_of_stop defaulted stopsDefault tail
    rw [run, rest] at inner
    have bar : inChars (.char '|' :: (default ++ .char '}' :: tail)) =
      '|' :: inChars (default ++ .char '}' :: tail) := rfl
    have brace : inChars (.char '}' :: tail) = '}' :: inChars tail := rfl
    simp only [chars, Form.read?, span.1, span.2, nonempty, bar, inner.1, inner.2,
      nonemptyDefault, brace, form, Option.map_some]
    rfl

theorem Mention.form_injective {a b : Mention} (same : a.form = b.form) : a = b := by
  have back (text : List Symbol) : symbols (inChars text) = text := symbols_written text
  obtain ⟨name, default⟩ := a
  obtain ⟨name', default'⟩ := b
  obtain ⟨names, defaults⟩ := Form.mk.inj same
  have sameName := congrArg symbols names
  have sameDefault := congrArg (Option.map symbols) defaults
  simp only [back] at sameName
  simp only [Option.map_map, Function.comp_def, back, Option.map_id'] at sameDefault
  rw [sameName, sameDefault]

/-- A text begins with one reference at most. -/
theorem Mention.WellFormed.eq_of_append {a b : Mention} {tail tail' : List Symbol}
    (left : a.WellFormed) (right : b.WellFormed) (same : a.text ++ tail = b.text ++ tail') :
    a = b := by
  have read := left.read? tail
  rw [same, right.read? tail'] at read
  exact Mention.form_injective (Option.some.inj read).symm

/-- What is read at the beginning of a text is a reference that the text begins with. -/
theorem mention_of_read? {whole : List Symbol} {f : Form}
    (read : Form.read? (inChars whole) = some f) :
    ∃ m : Mention, m.WellFormed ∧ m.text <+: whole ∧ m.form = f := by
  unfold Form.read? at read
  split at read
  case h_2 => simp at read
  case h_1 chars atStart =>
    obtain ⟨afterDollar, rfl, rest⟩ := inChars_eq_cons (by decide) atStart
    obtain ⟨body, rfl, rfl⟩ := inChars_eq_cons (by decide) rest
    obtain ⟨nameRun, nameRest⟩ := span_inChars isNameChar_half body
    have body_eq := @List.takeWhile_append_dropWhile _ (Symbol.every isNameChar) body
    have named (s : Symbol) (member : s ∈ body.takeWhile (Symbol.every isNameChar)) :=
      (every_isNameChar s).mp (List.all_eq_true.mp List.all_takeWhile s member)
    simp only [nameRun, nameRest, inChars_isEmpty] at read
    split at read
    case isTrue => simp at read
    case isFalse nonempty =>
      have name_ne_nil : body.takeWhile (Symbol.every isNameChar) ≠ [] := by
        simpa using nonempty
      split at read
      case h_1 cs atBrace =>
        obtain ⟨tail, after, rfl⟩ := inChars_eq_cons (by decide) atBrace
        obtain rfl := Option.some.inj read
        refine ⟨⟨_, none⟩, ⟨name_ne_nil, named, by simp, by simp⟩, ⟨tail, ?_⟩, rfl⟩
        simp [Mention.text, Mention.ending, ← after, body_eq]
      case h_2 cs atBar =>
        obtain ⟨inner, after, rfl⟩ := inChars_eq_cons (by decide) atBar
        obtain ⟨defaultRun, defaultRest⟩ := span_inChars isDefaultChar_half inner
        have inner_eq := @List.takeWhile_append_dropWhile _ (Symbol.every isDefaultChar) inner
        simp only [defaultRun, defaultRest, inChars_isEmpty] at read
        split at read
        case isTrue => simp at read
        case isFalse closes =>
          obtain rfl := Option.some.inj read
          rw [Bool.or_eq_true, not_or, List.isEmpty_iff, List.isEmpty_iff] at closes
          obtain ⟨default_ne_nil, rest_ne_nil⟩ := closes
          have defaulted (s : Symbol)
              (member : s ∈ inner.takeWhile (Symbol.every isDefaultChar)) :=
            (every_isDefaultChar s).mp (List.all_eq_true.mp List.all_takeWhile s member)
          obtain ⟨stop, tail, atStop⟩ := List.exists_cons_of_ne_nil rest_ne_nil
          obtain rfl : stop = .char '}' := by
            have stops := List.head_dropWhile_not (Symbol.every isDefaultChar) rest_ne_nil
            simp only [atStop, List.head_cons] at stops
            refine Decidable.byContradiction fun other => ?_
            rw [(every_isDefaultChar stop).mpr other] at stops
            exact absurd stops (by decide)
          refine ⟨⟨_, some _⟩, ⟨name_ne_nil, named, ?_, ?_⟩, ⟨tail, ?_⟩, rfl⟩
          · rintro d ⟨⟩
            exact default_ne_nil
          · rintro d ⟨⟩
            exact defaulted
          · rw [atStop] at inner_eq
            simp [Mention.text, Mention.ending, ← after, body_eq, inner_eq]
      case h_3 => simp at read

end Stagewright.Variable
