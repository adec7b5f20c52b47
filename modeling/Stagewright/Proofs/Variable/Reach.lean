import Stagewright.Proofs.Value.Excess
import Stagewright.Proofs.Value.Tree
import Stagewright.Variable.Reach

/-!
Replacing references gets through a value exactly where the values they ask for can be written out
and the collections are not nested too deep.
-/

namespace Stagewright.Variable

/-- There is too much of something in a value, where `room` collections inside one another can be
walked through: it is nested too deep, or what a reference asks for cannot be written out where the
reference stands. -/
inductive Exceeds (scope : Scope) : Nat → Value → Excess → Prop
  | asked {room s r v e} : r ∈ references s → scope.get? r.name = some v →
      v.Exceeds (Excess.nesting room) e → Exceeds scope room (.text s) e
  | item {room items v e} : v ∈ items → Exceeds scope room v e →
      Exceeds scope (room + 1) (.list items) e
  | value {room entries v e} : v ∈ entries.map Prod.snd → Exceeds scope room v e →
      Exceeds scope (room + 1) (.map entries) e
  | deepList {items} : Exceeds scope 0 (.list items) .depth
  | deepMap {entries} : Exceeds scope 0 (.map entries) .depth

/-- There is not too much of anything in a value. -/
def Bounded (scope : Scope) (room : Nat) (v : Value) : Prop := ∀ e, ¬Exceeds scope room v e

theorem Exceeds.map {scope : Scope} {room : Nat} {entries : List (Scalar × Value)} {e : Excess}
    (exceeds : Exceeds scope room (.list (entries.map Prod.snd)) e) :
    Exceeds scope room (.map entries) e := by
  cases exceeds with
  | item member inside => exact .value member inside
  | deepList => exact .deepMap

namespace Reach

theorem andThen_stop_eq_none {first : Reach} {next : Unit → Reach} :
    (first.andThen next).stop = none ↔ first.stop = none ∧ (next ()).stop = none := by
  unfold andThen
  cases ended : first.stop <;> simp [ended]

theorem andThen_stop_eq_some {first : Reach} {next : Unit → Reach} {e : Excess}
    (ends : (first.andThen next).stop = some e) :
    first.stop = some e ∨ (next ()).stop = some e := by
  unfold andThen at ends
  cases ended : first.stop with
  | some e' =>
    rw [ended] at ends
    exact .inl (ended ▸ ends)
  | none =>
    rw [ended] at ends
    exact .inr ends

variable {scope : Scope} {room : Nat}

theorem ofReferences_stop_eq_none {rs : List Reference} :
    (ofReferences scope room rs).stop = none ↔ ∀ r ∈ rs, ∀ v, scope.get? r.name = some v →
      v.excessIn? (Excess.nesting room) = none := by
  induction rs with
  | nil => simp [ofReferences]
  | cons r rs ih =>
    have here : (ofReference scope room r).stop = none ↔
        ∀ v, scope.get? r.name = some v → v.excessIn? (Excess.nesting room) = none := by
      unfold ofReference
      cases scope.get? r.name with
      | none => cases r.default <;> simp
      | some v => simp
    rw [ofReferences, andThen_stop_eq_none, ih, here, List.forall_mem_cons, and_comm]

theorem ofReferences_stop_eq_some {rs : List Reference} {e : Excess}
    (ends : (ofReferences scope room rs).stop = some e) :
    ∃ r ∈ rs, ∃ v, scope.get? r.name = some v ∧ v.excessIn? (Excess.nesting room) = some e := by
  induction rs with
  | nil => simp [ofReferences] at ends
  | cons r rs ih =>
    rcases andThen_stop_eq_some ends with later | here
    · obtain ⟨other, member, asked⟩ := ih later
      exact ⟨other, List.mem_cons_of_mem _ member, asked⟩
    · refine ⟨r, List.mem_cons_self, ?_⟩
      unfold ofReference at here
      cases value : scope.get? r.name with
      | none => cases default : r.default <;> simp [value, default] at here
      | some v => exact ⟨v, rfl, by simpa [value] using here⟩

theorem ofItems_stop_eq_none {items : List Value} : (ofItems scope room items).stop = none ↔
    ∀ v ∈ items, (ofValue scope room v).stop = none := by
  induction items with
  | nil => simp [ofItems]
  | cons v rest ih => rw [ofItems, andThen_stop_eq_none, ih, List.forall_mem_cons]

theorem ofItems_stop_eq_some {items : List Value} {e : Excess}
    (ends : (ofItems scope room items).stop = some e) :
    ∃ v ∈ items, (ofValue scope room v).stop = some e := by
  induction items with
  | nil => simp [ofItems] at ends
  | cons v rest ih =>
    rcases andThen_stop_eq_some ends with here | later
    · exact ⟨v, List.mem_cons_self, here⟩
    · obtain ⟨v, member, ended⟩ := ih later
      exact ⟨v, List.mem_cons_of_mem _ member, ended⟩

theorem ofItems_append_stop {items : List Value} (more : List Value)
    (goesOn : (ofItems scope room items).stop = none) :
    (ofItems scope room (items ++ more)).stop = (ofItems scope room more).stop := by
  induction items with
  | nil => rfl
  | cons v rest ih =>
    rw [ofItems] at goesOn
    obtain ⟨here, later⟩ := andThen_stop_eq_none.mp goesOn
    rw [List.cons_append, ofItems, andThen, here]
    exact ih later

theorem ofEntries_eq_ofItems (entries : List (Scalar × Value)) :
    ofEntries scope room entries = ofItems scope room (entries.map Prod.snd) := by
  induction entries with
  | nil => rfl
  | cons e rest ih => rw [ofEntries, ih, List.map_cons, ofItems]

theorem ofValue_map (entries : List (Scalar × Value)) :
    ofValue scope room (.map entries) = ofValue scope room (.list (entries.map Prod.snd)) := by
  rw [ofValue, ofValue, ofEntries_eq_ofItems]

theorem ofValue_leaf {v : Value} (leaf : v.isLeaf = true) : ofValue scope room v = {} := by
  unfold Value.isLeaf at leaf
  split at leaf
  case h_4 => rw [ofValue] <;> assumption
  all_goals simp at leaf

theorem ofValue_list_zero (items : List Value) :
    ofValue scope 0 (.list items) = { stop := some .depth } := rfl

theorem ofValue_list_succ (items : List Value) :
    ofValue scope (room + 1) (.list items) = ofItems scope room items := rfl

/-- What puts an end to it is there too much of. -/
theorem ofValue_stop_eq_some {v : Value} {e : Excess}
    (ends : (ofValue scope room v).stop = some e) : Exceeds scope room v e := by
  induction v using Value.list_induction generalizing room with
  | text s =>
    obtain ⟨r, member, v, asked, large⟩ := ofReferences_stop_eq_some ends
    exact .asked member asked (Value.exceeds_of_excessIn? large)
  | leaf v leaf => simp [ofValue_leaf leaf] at ends
  | list items ih =>
    cases room with
    | zero =>
      obtain rfl := Option.some.inj ends
      exact .deepList
    | succ room =>
      rw [ofValue_list_succ] at ends
      obtain ⟨v, member, ended⟩ := ofItems_stop_eq_some ends
      exact .item member (ih v member ended)
  | map entries ih =>
    rw [ofValue_map] at ends
    exact (ih ends).map

theorem ofValue_stop_ne_none {v : Value} {e : Excess} (exceeds : Exceeds scope room v e) :
    (ofValue scope room v).stop ≠ none := by
  induction exceeds with
  | asked member asked large =>
    intro goesOn
    have fits := ofReferences_stop_eq_none.mp goesOn _ member _ asked
    exact Value.excessIn?_eq_none_iff.mp fits _ large
  | item member _ ih =>
    rw [ofValue_list_succ]
    exact fun goesOn => ih (ofItems_stop_eq_none.mp goesOn _ member)
  | value member _ ih =>
    rw [ofValue_map, ofValue_list_succ]
    exact fun goesOn => ih (ofItems_stop_eq_none.mp goesOn _ member)
  | deepList => simp [ofValue_list_zero]
  | deepMap => simp [ofValue_map, ofValue_list_zero]

/-- Nothing puts an end to it exactly if there is not too much of anything. -/
theorem ofValue_stop_eq_none {v : Value} :
    (ofValue scope room v).stop = none ↔ Bounded scope room v := by
  constructor
  · exact fun goesOn e exceeds => ofValue_stop_ne_none exceeds goesOn
  · intro bounded
    cases ends : (ofValue scope room v).stop with
    | none => rfl
    | some e => exact absurd (ofValue_stop_eq_some ends) (bounded e)

end Reach

end Stagewright.Variable
