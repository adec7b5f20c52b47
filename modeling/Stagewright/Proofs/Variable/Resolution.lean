import Stagewright.Proofs.Variable.Reach
import Stagewright.Proofs.Variable.Rewriting

/-!
What replacing references comes to, for texts and for documents.
-/

namespace Stagewright.Variable

namespace Reach

variable {scope : Scope} {room : Nat}

theorem andThen_records {first : Reach} {next : Unit → Reach} (goesOn : first.stop = none) :
    (first.andThen next).records = first.records ++ (next ()).records := by
  simp only [andThen, goesOn]

theorem ofReference_records (r : Reference) : (ofReference scope room r).records =
    ([r].filter (·.isUnresolved scope)).map Reference.unresolved := by
  unfold ofReference
  cases value : scope.get? r.name with
  | some v => simp [Reference.isUnresolved, value]
  | none => cases default : r.default <;> simp [Reference.isUnresolved, value, default]

theorem ofReferences_records {rs : List Reference}
    (goesOn : (ofReferences scope room rs).stop = none) : (ofReferences scope room rs).records =
      (rs.reverse.filter (·.isUnresolved scope)).map Reference.unresolved := by
  induction rs with
  | nil => rfl
  | cons r rs ih =>
    rw [ofReferences] at goesOn ⊢
    obtain ⟨later, -⟩ := andThen_stop_eq_none.mp goesOn
    rw [andThen_records later, ih later, ofReference_records, List.reverse_cons,
      List.filter_append, List.map_append]

theorem ofItems_records {items : List Value} (goesOn : (ofItems scope room items).stop = none) :
    (ofItems scope room items).records = items.flatMap fun v => (ofValue scope room v).records := by
  induction items with
  | nil => rfl
  | cons v rest ih =>
    rw [ofItems] at goesOn ⊢
    obtain ⟨first, later⟩ := andThen_stop_eq_none.mp goesOn
    rw [andThen_records first, ih later, List.flatMap_cons]

/-- Where nothing puts an end to it, all there is to log has been logged. -/
theorem ofValue_records {v : Value} (goesOn : (ofValue scope room v).stop = none) :
    (ofValue scope room v).records = v.texts.flatMap (warnings scope) := by
  induction v using Value.list_induction generalizing room with
  | text s =>
    rw [ofValue] at goesOn ⊢
    simp [ofReferences_records goesOn, Value.texts, warnings]
  | leaf v leaf => simp [ofValue_leaf leaf, Value.texts_leaf leaf]
  | list items ih =>
    cases room with
    | zero => simp [ofValue_list_zero] at goesOn
    | succ room =>
      rw [ofValue_list_succ] at goesOn ⊢
      have each := ofItems_stop_eq_none.mp goesOn
      rw [ofItems_records goesOn, Value.texts_list, List.flatMap_assoc]
      exact List.flatMap_congr fun v among => ih v among (each v among)
  | map entries ih =>
    rw [ofValue_map] at goesOn ⊢
    rw [Value.texts_map, ← Value.texts_list]
    exact ih goesOn

end Reach

section Resolution

variable {scope : Scope} {room : Nat} {v : Value}

theorem resolve_ok (bounded : Bounded scope room v) : resolve scope room v =
    (.ok (substituteValue scope v).1, v.texts.flatMap (warnings scope)) := by
  have goesOn := Reach.ofValue_stop_eq_none.mpr bounded
  simp only [resolve, goesOn, substituteValue_records]

theorem resolve_error (exceeds : ¬Bounded scope room v) :
    ∃ e, (resolve scope room v).1 = .error e ∧ Exceeds scope room v e := by
  cases stop : (Reach.ofValue scope room v).stop with
  | none => exact absurd (Reach.ofValue_stop_eq_none.mp stop) exceeds
  | some e => exact ⟨e, by simp only [resolve, stop], Reach.ofValue_stop_eq_some stop⟩

end Resolution

/-- Replacing references replaces all of a text at once, in every text of a document and nowhere
else, and fails only for what cannot be written out or walked through. -/
theorem replaced_at_once (scope : Scope) (room : Nat) :
    (∀ s : String, Ordered s.toList 0 (references s) ∧
      (Bounded scope room (.text s) →
        resolve scope room (.text s) = (.ok (.text (replaced scope s)), warnings scope s)) ∧
      (¬Bounded scope room (.text s) →
        ∃ e, (resolve scope room (.text s)).1 = .error e ∧ Exceeds scope room (.text s) e)) ∧
    ∀ document : Value,
      (Bounded scope room document →
        ∃ resolved, Rewritten (replaced scope) document resolved ∧
          resolve scope room document =
            (.ok resolved, document.texts.flatMap (warnings scope))) ∧
      (¬Bounded scope room document →
        ∃ e, (resolve scope room document).1 = .error e ∧ Exceeds scope room document e) := by
  refine ⟨fun s => ⟨references_ordered s, fun bounded => ?_, resolve_error⟩,
    fun document => ⟨fun bounded => ?_, resolve_error⟩⟩
  · rw [resolve_ok bounded, substituteValue, substitute_eq]
    simp [Value.texts]
  · exact ⟨_, substituteValue_rewritten scope document, resolve_ok bounded⟩

/-- A scope with one variable, whose value looks like a reference. -/
def scopeOfOne : Scope := [(.text "a", .text "$\x7bc\x7d")]

/-- A document whose only text has a reference to that variable, one with a default, and one that
nothing stands for. -/
def documentOfOne : Value :=
  .map [(.text "k", .list [.text "<$\x7ba\x7d|$\x7bb|d\x7d|$\x7bc\x7d>", .null])]

/-- What is put in is not looked at again, and a reference that nothing stands for is logged. -/
example : resolve scopeOfOne 2 documentOfOne =
    (.ok (.map [(.text "k", .list [.text "<$\x7bc\x7d|d|$\x7bc\x7d>", .null])]),
      [⟨.warning, .substitution, "Variable 'c' is not defined"⟩]) := by rfl

theorem document_of_one_replaced :
    Bounded scopeOfOne 2 documentOfOne ∧
      ∃ resolved, Rewritten (replaced scopeOfOne) documentOfOne resolved ∧
        resolve scopeOfOne 2 documentOfOne =
          (.ok resolved, documentOfOne.texts.flatMap (warnings scopeOfOne)) := by
  have goesOn : (Reach.ofValue scopeOfOne 2 documentOfOne).stop = none := rfl
  have bounded := Reach.ofValue_stop_eq_none.mp goesOn
  exact ⟨bounded, ((replaced_at_once scopeOfOne 2).2 documentOfOne).1 bounded⟩

/-- An empty list inside `n` others. -/
def nested : Nat → Value
  | 0 => .list []
  | n + 1 => .list [nested n]

theorem Reach.ofValue_nested {scope : Scope} {room n : Nat} (deep : room ≤ n) :
    Reach.ofValue scope room (nested n) = { stop := some .depth } := by
  induction n generalizing room with
  | zero =>
    obtain rfl := Nat.le_zero.mp deep
    rfl
  | succ n ih =>
    cases room with
    | zero => rfl
    | succ room =>
      rw [nested, Reach.ofValue_list_succ, Reach.ofItems, ih (Nat.le_of_succ_le_succ deep)]
      rfl

/-- Lists that are nested too deep are not walked through, and a number of too many digits is not
put in. -/
theorem not_always_replaced :
    (resolve [] Excess.mostLevels (nested 600)).1 = .error .depth ∧
      (resolve [(.text "n", .int (Nat.pow 10 Excess.mostDigits))] Excess.mostLevels
        (.text "$\x7bn\x7d")).1 = .error .digits := by
  constructor
  · have deep : Excess.mostLevels ≤ 600 := by decide
    simp only [resolve, Reach.ofValue_nested deep]
  · have stop : (Reach.ofValue [(.text "n", .int (Nat.pow 10 Excess.mostDigits))] Excess.mostLevels
        (.text "$\x7bn\x7d")).stop = some .digits := by decide +kernel
    simp only [resolve, stop]

end Stagewright.Variable
