import Stagewright.Variable.Substitution

/-!
Replacing references one after the other, the last one first, comes to the same as replacing all of
them at once: nothing that is put in is looked at again.
-/

namespace Stagewright.Variable

/-- References that stand in the characters one after the other, from a place on. -/
inductive Ordered (cs : List Char) : Nat → List Reference → Prop
  | nil {place} : Ordered cs place []
  | cons {place} {r : Reference} {rs} : place ≤ r.start → r.start ≤ r.stop → r.stop ≤ cs.length →
      r.source = String.ofList ((cs.drop r.start).take (r.stop - r.start)) →
      Ordered cs r.stop rs → Ordered cs place (r :: rs)

theorem Ordered.mono {cs : List Char} {place later : Nat} {rs : List Reference}
    (ordered : Ordered cs later rs) (before : place ≤ later) : Ordered cs place rs := by
  cases ordered with
  | nil => exact .nil
  | cons start stop within source rest =>
    exact .cons (Nat.le_trans before start) stop within source rest

section Looking

theorem Form.read?_length_le {cs : List Char} {f : Form} (read : Form.read? cs = some f) :
    f.length ≤ cs.length := by
  unfold Form.read? at read
  split at read
  case h_2 => simp at read
  case h_1 body =>
    have nameRun := congrArg List.length (@List.takeWhile_append_dropWhile _ isNameChar body)
    rw [List.length_append] at nameRun
    simp only at read
    split at read
    case isTrue => simp at read
    case isFalse =>
      split at read
      case h_1 tail atBrace =>
        obtain rfl := Option.some.inj read
        simp only [atBrace, List.length_cons] at nameRun
        simp only [Form.length, List.length_cons]
        omega
      case h_2 inner atBar =>
        have defaultRun :=
          congrArg List.length (@List.takeWhile_append_dropWhile _ isDefaultChar inner)
        rw [List.length_append] at defaultRun
        split at read
        case isTrue => simp at read
        case isFalse closes =>
          obtain rfl := Option.some.inj read
          have closed : (inner.dropWhile isDefaultChar).length ≠ 0 := by
            intro empty
            simp [List.length_eq_zero_iff.mp empty] at closes
          simp only [atBar, List.length_cons] at nameRun
          simp only [Form.length, List.length_cons]
          omega
      case h_3 => simp at read

theorem Form.length_pos (f : Form) : 0 < f.length := by
  unfold Form.length
  split <;> omega

variable {cs : List Char}

theorem Occurrence.reference?_places {o : Occurrence} {r : Reference}
    (named : o.reference? cs = some r) : r.start = o.start ∧ r.stop = o.stop ∧
      r.source = String.ofList ((cs.drop o.start).take (o.stop - o.start)) := by
  simp only [Occurrence.reference?] at named
  split at named
  case isTrue => simp at named
  case isFalse =>
    obtain rfl := Option.some.inj named
    exact ⟨rfl, rfl, rfl⟩

/-- The search goes on after the end of what it has found. -/
theorem occurrencesFrom_ordered {rest : List Char} {position skip place : Nat}
    (reached : position + rest.length = cs.length) (passed : place ≤ position + skip) :
    Ordered cs place ((occurrencesFrom position skip rest).filterMap (·.reference? cs)) := by
  induction rest generalizing position skip place with
  | nil => exact .nil
  | cons c rest ih =>
    have next : position + 1 + rest.length = cs.length := by
      rw [← reached, List.length_cons]
      omega
    cases skip with
    | succ skip =>
      rw [occurrencesFrom]
      exact ih next (by omega)
    | zero =>
      rw [occurrencesFrom]
      cases read : Form.read? (c :: rest) with
      | none => exact ih next (by omega)
      | some form =>
        have positive := form.length_pos
        have within := Form.read?_length_le read
        have after : Ordered cs (position + form.length)
            ((occurrencesFrom (position + 1) (form.length - 1) rest).filterMap (·.reference? cs)) :=
          ih next (by omega)
        simp only [List.filterMap_cons]
        cases named : Occurrence.reference? cs ⟨position, position + form.length, form⟩ with
        | none => exact after.mono (by omega)
        | some r =>
          obtain ⟨start, stop, source⟩ := Occurrence.reference?_places named
          simp only at start stop
          simp only [← stop] at source after
          simp only [← start] at source
          refine .cons ?_ ?_ ?_ source after <;> simp only [start, stop, ← reached] <;> omega

end Looking

theorem references_ordered (s : String) : Ordered s.toList 0 (references s) :=
  occurrencesFrom_ordered (Nat.zero_add _) (Nat.zero_le _)

/-- What stands for a reference: the value of its variable, or else its default, or else the
reference itself. -/
def Reference.inserted (scope : Scope) (r : Reference) : String :=
  match scope.get? r.name, r.default with
  | some value, _ => value.spell
  | none, some default => default
  | none, none => r.source

/-- There is neither a variable nor a default. -/
def Reference.isUnresolved (scope : Scope) (r : Reference) : Bool :=
  (scope.get? r.name).isNone && r.default.isNone

theorem Reference.replacement?_eq_some {scope : Scope} {r : Reference} {value : String}
    (known : r.replacement? scope = some value) :
    r.inserted scope = value ∧ r.isUnresolved scope = false := by
  unfold Reference.replacement? at known
  cases defined : scope.get? r.name with
  | some v =>
    rw [defined] at known
    simpa [Reference.inserted, Reference.isUnresolved, defined] using known
  | none =>
    rw [defined] at known
    simp only at known
    simp [Reference.inserted, Reference.isUnresolved, defined, known]

theorem Reference.replacement?_eq_none {scope : Scope} {r : Reference}
    (unknown : r.replacement? scope = none) :
    r.inserted scope = r.source ∧ r.isUnresolved scope = true := by
  unfold Reference.replacement? at unknown
  cases defined : scope.get? r.name with
  | some v =>
    rw [defined] at unknown
    simp at unknown
  | none =>
    rw [defined] at unknown
    simp only at unknown
    simp [Reference.inserted, Reference.isUnresolved, defined, unknown]

/-- The characters from a place on: those between the references as they are, and what stands for
each reference. -/
def spliced (scope : Scope) (cs : List Char) : Nat → List Reference → List Char
  | place, [] => cs.drop place
  | place, r :: rs =>
    (cs.drop place).take (r.start - place) ++ (r.inserted scope).toList ++
      spliced scope cs r.stop rs

/-- A text with all its references replaced at once. -/
def replaced (scope : Scope) (s : String) : String :=
  String.ofList (spliced scope s.toList 0 (references s))

/-- What is logged about a text: one warning for each reference that nothing stands for, the last
one first. -/
def warnings (scope : Scope) (s : String) : List Log.Record :=
  ((references s).reverse.filter (·.isUnresolved scope)).map Reference.unresolved

section Replacing

variable {scope : Scope} {cs : List Char}

theorem take_gap {place start : Nat} (before : place ≤ start) :
    cs.take place ++ (cs.drop place).take (start - place) = cs.take start := by
  rw [← List.take_add, Nat.add_sub_cancel' before]

theorem replaceAll_ordered {place : Nat} {rs : List Reference} (ordered : Ordered cs place rs) :
    replaceAll scope rs cs = (cs.take place ++ spliced scope cs place rs,
      (rs.reverse.filter (·.isUnresolved scope)).map Reference.unresolved) := by
  induction ordered with
  | nil => simp [replaceAll, spliced]
  | @cons place r rs start stop within source rest ih =>
    have reached : (cs.take r.stop).length = r.stop := List.length_take_of_le within
    have upToStart : (cs.take r.stop).take r.start = cs.take r.start := by
      rw [List.take_take, Nat.min_eq_left stop]
    have startInside : r.start ≤ (cs.take r.stop).length := by omega
    simp only [replaceAll, ih, spliced, List.reverse_cons, List.filter_append, List.map_append]
    cases known : r.replacement? scope with
    | some value =>
      obtain ⟨inserted, resolved⟩ := Reference.replacement?_eq_some known
      simp only [inserted, List.take_append_of_le_length startInside, upToStart,
        List.drop_left' reached, ← take_gap start]
      simp [resolved]
    | none =>
      obtain ⟨inserted, unresolved⟩ := Reference.replacement?_eq_none known
      simp only [inserted, source, String.toList_ofList, ← take_gap stop, ← take_gap start]
      simp [unresolved]

theorem substitute_eq (s : String) : substitute scope s = (replaced scope s, warnings scope s) := by
  rw [substitute, replaceAll_ordered (references_ordered s)]
  rfl

end Replacing

end Stagewright.Variable
