import Mathlib.Data.List.Forall2
import Stagewright.Proofs.Value.Excess
import Stagewright.Proofs.Value.Tree
import Stagewright.Proofs.Variable.Splice

/-!
Replacing references inside a document puts every text of it through the same replacement, and keeps
everything else.
-/

namespace Stagewright.Variable

/-- The second value is the first with every text put through `f`, keys excepted. -/
inductive Rewritten (f : String → String) : Value → Value → Prop
  | text (s : String) : Rewritten f (.text s) (.text (f s))
  | leaf {v : Value} : v.isLeaf = true → Rewritten f v v
  | list {items items' : List Value} : List.Forall₂ (Rewritten f) items items' →
      Rewritten f (.list items) (.list items')
  | map {entries entries' : List (Scalar × Value)} :
      entries.map Prod.fst = entries'.map Prod.fst →
      List.Forall₂ (Rewritten f) (entries.map Prod.snd) (entries'.map Prod.snd) →
      Rewritten f (.map entries) (.map entries')

section Substitution

variable (scope : Scope)

theorem substituteItems_eq (items : List Value) : substituteItems scope items =
    (items.map fun v => (substituteValue scope v).1,
      items.flatMap fun v => (substituteValue scope v).2) := by
  induction items with
  | nil => rfl
  | cons v rest ih =>
    rw [substituteItems, ih]
    rfl

theorem substituteEntries_eq (entries : List (Scalar × Value)) : substituteEntries scope entries =
    (entries.map fun e => (e.1, (substituteValue scope e.2).1),
      (entries.map Prod.snd).flatMap fun v => (substituteValue scope v).2) := by
  induction entries with
  | nil => rfl
  | cons e rest ih =>
    rw [substituteEntries, ih]
    rfl

theorem substituteValue_leaf {v : Value} (leaf : v.isLeaf = true) :
    substituteValue scope v = (v, []) := by
  unfold Value.isLeaf at leaf
  split at leaf
  case h_4 => rw [substituteValue] <;> assumption
  all_goals simp at leaf

theorem substituteValue_rewritten (v : Value) :
    Rewritten (replaced scope) v (substituteValue scope v).1 := by
  induction v using Value.tree_induction with
  | text s =>
    rw [substituteValue, substitute_eq]
    exact .text s
  | leaf v leaf =>
    rw [substituteValue_leaf scope leaf]
    exact .leaf leaf
  | list items ih =>
    rw [substituteValue, substituteItems_eq]
    refine .list ?_
    rw [List.forall₂_map_right_iff, List.forall₂_same]
    exact ih
  | map entries ih =>
    rw [substituteValue, substituteEntries_eq]
    refine .map (by simp) ?_
    have values : (entries.map fun e => (e.1, (substituteValue scope e.2).1)).map Prod.snd =
        (entries.map Prod.snd).map fun v => (substituteValue scope v).1 := by simp
    rw [values, List.forall₂_map_right_iff, List.forall₂_same]
    exact ih

theorem substituteValue_records (v : Value) :
    (substituteValue scope v).2 = v.texts.flatMap (warnings scope) := by
  induction v using Value.tree_induction with
  | text s => simp [substituteValue, substitute_eq, Value.texts]
  | leaf v leaf => simp [substituteValue_leaf scope leaf, Value.texts_leaf leaf]
  | list items ih =>
    rw [substituteValue, substituteItems_eq, Value.texts_list, List.flatMap_assoc]
    exact List.flatMap_congr ih
  | map entries ih =>
    rw [substituteValue, substituteEntries_eq, Value.texts_map, List.flatMap_assoc]
    exact List.flatMap_congr ih

/-- Replacing references changes no keys. -/
theorem substituteValue_keyed {v : Value} (keyed : v.Keyed) :
    (substituteValue scope v).1.Keyed := by
  induction v using Value.tree_induction with
  | text s =>
    rw [substituteValue]
    exact .text
  | leaf v leaf =>
    rw [substituteValue_leaf scope leaf]
    exact keyed
  | list items ih =>
    have inside := Value.keyed_list.mp keyed
    rw [substituteValue, substituteItems_eq]
    exact .list (by simpa using fun v among => ih v among (inside v among))
  | map entries ih =>
    obtain ⟨distinct, inside⟩ := Value.keyed_map.mp keyed
    rw [substituteValue, substituteEntries_eq]
    refine .map (List.pairwise_map.mpr distinct) fun v among => ?_
    obtain ⟨e, held, rfl⟩ := List.mem_map.mp among
    obtain ⟨old, before, rfl⟩ := List.mem_map.mp held
    have within : old.2 ∈ entries.map Prod.snd := List.mem_map_of_mem before
    exact ih old.2 within (inside old.2 within)

/-- Texts can always be written out, whatever takes the place of their references. -/
theorem substituteValue_excessIn? (room : Nat) (v : Value) :
    (substituteValue scope v).1.excessIn? room = v.excessIn? room := by
  induction v using Value.tree_induction generalizing room with
  | text s =>
    rw [substituteValue, Value.excessIn?_scalar, Value.excessIn?_scalar]
    rfl
  | leaf v leaf => rw [substituteValue_leaf scope leaf]
  | list items ih =>
    rw [substituteValue, substituteItems_eq]
    cases room with
    | zero => rw [Value.excessIn?_zero rfl, Value.excessIn?_zero rfl]
    | succ room =>
      rw [Value.excessIn?_succ rfl, Value.excessIn?_succ rfl, List.findSome?_map]
      exact Value.findSome?_congr fun v among => ih v among room
  | map entries ih =>
    rw [substituteValue, substituteEntries_eq]
    cases room with
    | zero => rw [Value.excessIn?_zero rfl, Value.excessIn?_zero rfl]
    | succ room =>
      rw [Value.excessIn?_map_succ, Value.excessIn?_map_succ, List.findSome?_map]
      refine Value.findSome?_congr fun e among => ?_
      exact congrArg _ (ih e.2 (List.mem_map_of_mem among) room)

/-- What is no text counts as given as before. -/
theorem substituteValue_isVoid {v : Value} (noText : ∀ s, v ≠ .text s) :
    (substituteValue scope v).1.isVoid = v.isVoid := by
  induction v using Value.tree_induction with
  | text s => exact absurd rfl (noText s)
  | leaf v leaf => rw [substituteValue_leaf scope leaf]
  | list items =>
    rw [substituteValue, substituteItems_eq]
    cases items <;> rfl
  | map entries =>
    rw [substituteValue, substituteEntries_eq]
    cases entries <;> rfl

end Substitution

end Stagewright.Variable
