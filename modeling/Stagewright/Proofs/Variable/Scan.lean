import Stagewright.Proofs.Variable.Mention

/-!
The references that are found in a text. Each is the leftmost one after the end of the one before,
and no reference is missed that begins outside them.
-/

namespace Stagewright.Variable

open Text

/-- A reference and the place where it begins. -/
structure Region where
  start : Nat
  mention : Mention

namespace Region

/-- The place after the reference. -/
def stop (r : Region) : Nat := r.start + r.mention.text.length

/-- The name is not blank. -/
def isNamed (r : Region) : Bool := trim (ofSymbols r.mention.name) ≠ ""

theorem start_lt_stop (r : Region) : r.start < r.stop := by
  have nonempty := List.length_pos_iff.mpr r.mention.text_ne_nil
  unfold stop
  omega

end Region

/-- The leftmost reference, and on from its end. What remains of the text begins at `place`. -/
inductive Scan : Nat → List Symbol → List Region → Prop
  | done {place} : Scan place [] []
  | pass {place s rest regions} : (∀ m : Mention, m.WellFormed → ¬m.text <+: s :: rest) →
      Scan (place + 1) rest regions → Scan place (s :: rest) regions
  | take {place} {m : Mention} {rest regions} : m.WellFormed →
      Scan (place + m.text.length) rest regions →
      Scan place (m.text ++ rest) (⟨place, m⟩ :: regions)

namespace Scan

theorem nil_inv {place : Nat} {regions : List Region} (scan : Scan place [] regions) :
    regions = [] := by
  generalize empty : ([] : List Symbol) = text at scan
  cases scan with
  | done => rfl
  | pass => simp at empty
  | take =>
    obtain ⟨nothing, -⟩ := List.append_eq_nil_iff.mp empty.symm
    exact absurd nothing (Mention.text_ne_nil _)

theorem of_none {place : Nat} {s : Symbol} {rest : List Symbol} {regions : List Region}
    (none : ∀ m : Mention, m.WellFormed → ¬m.text <+: s :: rest)
    (scan : Scan place (s :: rest) regions) : Scan (place + 1) rest regions := by
  generalize whole : s :: rest = text at scan
  cases scan with
  | done => simp at whole
  | pass _ tail =>
    obtain ⟨rfl, rfl⟩ := List.cons.inj whole
    exact tail
  | take wellFormed _ => exact absurd ⟨_, whole.symm⟩ (none _ wellFormed)

theorem of_mention {place : Nat} {m : Mention} {rest : List Symbol} {regions : List Region}
    (wellFormed : m.WellFormed) (scan : Scan place (m.text ++ rest) regions) :
    ∃ tail, regions = ⟨place, m⟩ :: tail ∧ Scan (place + m.text.length) rest tail := by
  generalize whole : m.text ++ rest = text at scan
  cases scan with
  | done =>
    obtain ⟨nothing, -⟩ := List.append_eq_nil_iff.mp whole
    exact absurd nothing m.text_ne_nil
  | pass none _ => exact absurd ⟨rest, whole⟩ (none m wellFormed)
  | take other tail =>
    obtain rfl := wellFormed.eq_of_append other whole
    obtain rfl := List.append_cancel_left whole
    exact ⟨_, rfl, tail⟩

theorem exists_regions (place : Nat) (text : List Symbol) : ∃ regions, Scan place text regions := by
  -- a reference is taken as a whole, so the induction is on the length and not on the symbols
  induction size : text.length using Nat.strongRecOn generalizing place text with
  | ind n ih =>
    cases text with
    | nil => exact ⟨[], .done⟩
    | cons s rest =>
      rw [List.length_cons] at size
      by_cases begins : ∃ m : Mention, m.WellFormed ∧ m.text <+: s :: rest
      · obtain ⟨m, wellFormed, tail, whole⟩ := begins
        have nonempty := List.length_pos_iff.mpr m.text_ne_nil
        have length := congrArg List.length whole
        rw [List.length_append, List.length_cons] at length
        obtain ⟨regions, scan⟩ := ih tail.length (by omega) (place + m.text.length) tail rfl
        rw [← whole]
        exact ⟨_, .take wellFormed scan⟩
      · obtain ⟨regions, scan⟩ := ih rest.length (by omega) (place + 1) rest rfl
        exact ⟨regions, .pass (fun m wellFormed front => begins ⟨m, wellFormed, front⟩) scan⟩

variable {place : Nat} {text : List Symbol} {regions : List Region}

theorem place_le_start (scan : Scan place text regions) : ∀ r ∈ regions, place ≤ r.start := by
  induction scan with
  | done => simp
  | pass _ _ ih =>
    intro r member
    have later := ih r member
    omega
  | take _ _ ih =>
    intro r member
    rcases List.mem_cons.mp member with rfl | later
    · exact Nat.le_refl _
    · have after := ih r later
      omega

theorem ordered (scan : Scan place text regions) :
    regions.Pairwise fun a b => a.stop ≤ b.start := by
  induction scan with
  | done => exact .nil
  | pass _ _ ih => exact ih
  | take _ tail ih => exact List.pairwise_cons.mpr ⟨tail.place_le_start, ih⟩

theorem wellFormed (scan : Scan place text regions) : ∀ r ∈ regions, r.mention.WellFormed := by
  induction scan with
  | done => simp
  | pass _ _ ih => exact ih
  | take here _ ih => exact List.forall_mem_cons.mpr ⟨here, ih⟩

/-- A region stands in the text, at its place. -/
theorem stands (scan : Scan place text regions) :
    ∀ r ∈ regions, r.mention.text <+: text.drop (r.start - place) := by
  induction scan with
  | done => simp
  | @pass place s rest regions _ tail ih =>
    intro r member
    have later := tail.place_le_start r member
    have next : r.start - place = r.start - (place + 1) + 1 := by omega
    rw [next, List.drop_succ_cons]
    exact ih r member
  | @take place m rest regions _ tail ih =>
    intro r member
    rcases List.mem_cons.mp member with rfl | inTail
    · simp
    · have later := tail.place_le_start r inTail
      have beyond : r.start - place = m.text.length + (r.start - (place + m.text.length)) := by
        omega
      rw [beyond, ← List.drop_drop, List.drop_left]
      exact ih r inTail

/-- Wherever a reference begins, it begins inside a region. -/
theorem covers (scan : Scan place text regions) {m : Mention} (wellFormed : m.WellFormed) {i : Nat}
    (begins : m.text <+: text.drop i) :
    ∃ r ∈ regions, r.start ≤ place + i ∧ place + i < r.stop := by
  induction scan generalizing i with
  | done => exact absurd (List.prefix_nil.mp (by simpa using begins)) m.text_ne_nil
  | pass none _ ih =>
    cases i with
    | zero => exact absurd begins (none m wellFormed)
    | succ i =>
      obtain ⟨r, member, from_le, lt_stop⟩ := ih (i := i) begins
      exact ⟨r, member, by omega, by omega⟩
  | @take place found rest regions _ _ ih =>
    by_cases inside : i < found.text.length
    · exact ⟨_, List.mem_cons_self, Nat.le_add_right place i, Nat.add_lt_add_left inside place⟩
    · have beyond : i = found.text.length + (i - found.text.length) := by omega
      rw [beyond, ← List.drop_drop, List.drop_left] at begins
      obtain ⟨r, member, from_le, lt_stop⟩ := ih begins
      exact ⟨r, List.mem_cons_of_mem _ member, by omega, by omega⟩

/-- What is found does not depend on how it is looked for. -/
theorem unique (scan : Scan place text regions) {others : List Region}
    (again : Scan place text others) : others = regions := by
  induction scan generalizing others with
  | done => exact again.nil_inv
  | pass none _ ih => exact ih (again.of_none none)
  | @take place m rest regions wellFormed _ ih =>
    obtain ⟨tail, rfl, scan⟩ := again.of_mention wellFormed
    rw [ih scan]

end Scan

section Characters

theorem read?_of_ne {c : Char} (other : c ≠ '$') (cs : List Char) :
    Form.read? (c :: cs) = none := by
  unfold Form.read?
  split
  case h_1 same => exact absurd (List.cons.inj same).1 other
  case h_2 => rfl

/-- The characters of a reference are passed over once it is found. -/
theorem occurrencesFrom_skip (passed rest : List Char) (position : Nat) :
    occurrencesFrom position passed.length (passed ++ rest) =
      occurrencesFrom (position + passed.length) 0 rest := by
  induction passed generalizing position with
  | nil => rfl
  | cons c passed ih =>
    have next := ih (position + 1)
    rw [Nat.add_right_comm] at next
    exact next

theorem occurrencesFrom_plain {plain : List Char} (noDollar : ∀ c ∈ plain, c ≠ '$')
    (rest : List Char) (position : Nat) :
    occurrencesFrom position 0 (plain ++ rest) =
      occurrencesFrom (position + plain.length) 0 rest := by
  induction plain generalizing position with
  | nil => rfl
  | cons c plain ih =>
    have ⟨here, later⟩ := List.forall_mem_cons.mp noDollar
    have next := ih later (position + 1)
    rw [Nat.add_right_comm] at next
    simp only [List.cons_append, occurrencesFrom, read?_of_ne here]
    exact next

/-- A dollar sign is a symbol of its own. -/
theorem dollar_not_after_first (s : Symbol) : ∃ c cs, s.written = c :: cs ∧ ∀ d ∈ cs, d ≠ '$' := by
  cases s with
  | char c =>
    by_cases mark : c = halfMark
    · exact ⟨c, [c], if_pos mark, by simp [mark, halfMark]⟩
    · exact ⟨c, [], if_neg mark, by simp⟩
  | half place =>
    refine ⟨halfMark, _, rfl, fun d member => ?_⟩
    exact Symbol.ne_of_mem_half (List.mem_cons_of_mem _ member) (by decide)

theorem occurrencesFrom_pass {s : Symbol} {rest : List Symbol}
    (none : ∀ m : Mention, m.WellFormed → ¬m.text <+: s :: rest) (position : Nat) :
    occurrencesFrom position 0 (inChars (s :: rest)) =
      occurrencesFrom (position + s.written.length) 0 (inChars rest) := by
  have unread : Form.read? (inChars (s :: rest)) = Option.none := by
    cases read : Form.read? (inChars (s :: rest)) with
    | none => rfl
    | some form =>
      obtain ⟨m, wellFormed, front, -⟩ := mention_of_read? read
      exact absurd front (none m wellFormed)
  obtain ⟨c, cs, written, noDollar⟩ := dollar_not_after_first s
  rw [inChars_cons, written, List.cons_append] at unread ⊢
  have afterFirst := occurrencesFrom_plain noDollar (inChars rest) (position + 1)
  rw [Nat.add_right_comm] at afterFirst
  simp only [occurrencesFrom, unread]
  exact afterFirst

theorem occurrencesFrom_take {m : Mention} (wellFormed : m.WellFormed) (rest : List Symbol)
    (position : Nat) :
    occurrencesFrom position 0 (inChars (m.text ++ rest)) =
      ⟨position, position + (inChars m.text).length, m.form⟩ ::
        occurrencesFrom (position + (inChars m.text).length) 0 (inChars rest) := by
  have read := wellFormed.read? rest
  have length := m.length_form
  obtain ⟨cs, written⟩ : ∃ cs, inChars m.text = '$' :: cs := ⟨_, rfl⟩
  rw [inChars_append, written, List.cons_append] at read ⊢
  rw [written] at length
  have passed := occurrencesFrom_skip cs (inChars rest) (position + 1)
  rw [Nat.add_right_comm] at passed
  simp only [occurrencesFrom, read, length, List.length_cons, Nat.add_sub_cancel, passed]
  rfl

/-- A region by its characters in the text. -/
def Region.occurrence (text : List Symbol) (r : Region) : Occurrence :=
  ⟨(inChars (text.take r.start)).length, (inChars (text.take r.stop)).length, r.mention.form⟩

theorem Scan.occurrences {place : Nat} {rest : List Symbol} {regions : List Region}
    (scan : Scan place rest regions) (before : List Symbol) (reached : before.length = place) :
    occurrencesFrom (inChars before).length 0 (inChars rest) =
      regions.map (Region.occurrence (before ++ rest)) := by
  induction scan generalizing before with
  | done => rfl
  | @pass place s rest regions none _ ih =>
    have next := ih (before ++ [s]) (by simp [reached])
    rw [occurrencesFrom_pass none]
    simpa using next
  | @take place m rest regions wellFormed _ ih =>
    have next := ih (before ++ m.text) (by simp [reached])
    have here : Region.occurrence (before ++ (m.text ++ rest)) ⟨place, m⟩ =
        ⟨(inChars before).length, (inChars before).length + (inChars m.text).length, m.form⟩ := by
      have upTo : (before ++ (m.text ++ rest)).take (before.length + m.text.length) =
          before ++ m.text := by
        rw [← List.append_assoc]
        exact List.take_left' (by simp)
      simp only [Region.occurrence, Region.stop, ← reached, List.take_left, upTo, inChars_append,
        List.length_append]
    rw [occurrencesFrom_take wellFormed, List.map_cons, here]
    simpa using next

end Characters

end Stagewright.Variable
