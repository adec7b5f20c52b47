import Stagewright.Proofs.Variable.Reach
import Stagewright.Proofs.Variable.Rewriting

/-!
Which of several variables of one name counts, and on which variables it depends what becomes of a
document. Only the names that its references ask for are ever looked up.
-/

namespace Stagewright.Variable

/-- What stands for a reference: the value of the override, or of the variable that the document
declares, or of the one in the environment, or else the default, or else the reference itself. -/
def Reference.settled (overrides own environment : Scope) (r : Reference) : String :=
  match overrides.get? r.name, own.get? r.name, environment.get? r.name, r.default with
  | some value, _, _, _ => value.spell
  | none, some value, _, _ => value.spell
  | none, none, some value, _ => value.spell
  | none, none, none, some default => default
  | none, none, none, none => r.source

section Precedence

variable {overrides own : Scope}

/-- Overrides count before variables of the document, and these before the environment. -/
theorem scopeOf_get? (distinct : Dict.Distinct overrides) (ownDistinct : Dict.Distinct own)
    (environment : Scope) (name : String) :
    Mapping.get? (scopeOf environment own overrides) name =
      (overrides.get? name).or ((own.get? name).or (environment.get? name)) := by
  rw [scopeOf, Mapping.get?, Dict.get?_update distinct, Dict.get?_update ownDistinct]
  rfl

theorem inserted_scopeOf (distinct : Dict.Distinct overrides) (ownDistinct : Dict.Distinct own)
    (environment : Scope) (r : Reference) :
    r.inserted (scopeOf environment own overrides) = r.settled overrides own environment := by
  rw [Reference.inserted, scopeOf_get? distinct ownDistinct, Reference.settled]
  cases overrides.get? r.name with
  | some value => rfl
  | none =>
    cases own.get? r.name with
    | some value => rfl
    | none => cases environment.get? r.name <;> cases r.default <;> rfl

/-- What the environment says about a name counts only where nothing else is said about it. -/
theorem scopeOf_get?_congr {environment other : Scope} {name : String}
    (agree : overrides.get? name = none → own.get? name = none →
      environment.get? name = other.get? name) :
    Mapping.get? (scopeOf environment own overrides) name =
      Mapping.get? (scopeOf other own overrides) name := by
  cases overridden : overrides.get? name with
  | some value => exact Dict.get?_update_of_some overridden _ _
  | none =>
    -- what the document declares may still be in front of the environment
    refine Dict.get?_update_congr ?_ overrides
    cases declared : own.get? name with
    | some value => exact Dict.get?_update_of_some declared _ _
    | none => exact Dict.get?_update_congr (agree overridden declared) own

end Precedence

/-- Two scopes say the same about every name that the references of a text ask for. -/
def AgreeOn (scope other : Scope) (s : String) : Prop :=
  ∀ r ∈ references s, scope.get? r.name = other.get? r.name

section Agreement

variable {scope other : Scope}

theorem replaceAll_congr {rs : List Reference}
    (agree : ∀ r ∈ rs, scope.get? r.name = other.get? r.name) (cs : List Char) :
    replaceAll scope rs cs = replaceAll other rs cs := by
  induction rs with
  | nil => rfl
  | cons r rs ih =>
    obtain ⟨here, later⟩ := List.forall_mem_cons.mp agree
    have replacement : r.replacement? scope = r.replacement? other := by
      rw [Reference.replacement?, Reference.replacement?, here]
    rw [replaceAll, replaceAll, ih later, replacement]

theorem substitute_congr {s : String} (agree : AgreeOn scope other s) :
    substitute scope s = substitute other s := by
  rw [substitute, substitute, replaceAll_congr agree]

/-- What becomes of a value depends on the names that its texts ask for. -/
theorem substituteValue_congr {v : Value} (agree : ∀ s ∈ v.texts, AgreeOn scope other s) :
    substituteValue scope v = substituteValue other v := by
  induction v using Value.tree_induction with
  | text s =>
    have same := substitute_congr (agree s (by simp [Value.texts]))
    rw [substituteValue, substituteValue, same]
  | leaf v leaf => rw [substituteValue_leaf scope leaf, substituteValue_leaf other leaf]
  | list items ih =>
    have each : ∀ v ∈ items, substituteValue scope v = substituteValue other v := by
      intro v among
      refine ih v among fun s held => agree s ?_
      rw [Value.texts_list]
      exact List.mem_flatMap.mpr ⟨v, among, held⟩
    rw [substituteValue, substituteValue, substituteItems_eq, substituteItems_eq,
      List.map_congr_left fun v among => congrArg Prod.fst (each v among),
      List.flatMap_congr fun v among => congrArg Prod.snd (each v among)]
  | map entries ih =>
    have each : ∀ v ∈ entries.map Prod.snd, substituteValue scope v = substituteValue other v := by
      intro v among
      refine ih v among fun s held => agree s ?_
      rw [Value.texts_map]
      exact List.mem_flatMap.mpr ⟨v, among, held⟩
    have kept : ∀ e ∈ entries, (e.1, (substituteValue scope e.2).1) =
        (e.1, (substituteValue other e.2).1) :=
      fun e among => by rw [each e.2 (List.mem_map_of_mem among)]
    rw [substituteValue, substituteValue, substituteEntries_eq, substituteEntries_eq,
      List.map_congr_left kept,
      List.flatMap_congr fun v among => congrArg Prod.snd (each v among)]

theorem Reach.ofReferences_congr {room : Nat} {rs : List Reference}
    (agree : ∀ r ∈ rs, scope.get? r.name = other.get? r.name) :
    ofReferences scope room rs = ofReferences other room rs := by
  induction rs with
  | nil => rfl
  | cons r rs ih =>
    obtain ⟨here, later⟩ := List.forall_mem_cons.mp agree
    have reference : ofReference scope room r = ofReference other room r := by
      rw [ofReference, ofReference, here]
    rw [ofReferences, ofReferences, ih later, reference]

theorem Reach.ofItems_congr {room : Nat} {items : List Value}
    (each : ∀ v ∈ items, ofValue scope room v = ofValue other room v) :
    ofItems scope room items = ofItems other room items := by
  induction items with
  | nil => rfl
  | cons v rest ih =>
    obtain ⟨here, later⟩ := List.forall_mem_cons.mp each
    rw [ofItems, ofItems, here, ih later]

/-- How far replacing references gets depends on the same names. -/
theorem Reach.ofValue_congr {room : Nat} {v : Value}
    (agree : ∀ s ∈ v.texts, AgreeOn scope other s) :
    ofValue scope room v = ofValue other room v := by
  induction v using Value.list_induction generalizing room with
  | text s =>
    rw [ofValue, ofValue]
    exact ofReferences_congr (agree s (by simp [Value.texts]))
  | leaf v leaf => rw [ofValue_leaf leaf, ofValue_leaf leaf]
  | list items ih =>
    cases room with
    | zero => rfl
    | succ room =>
      refine ofItems_congr fun v among => ih v among fun s held => agree s ?_
      rw [Value.texts_list]
      exact List.mem_flatMap.mpr ⟨v, among, held⟩
  | map entries ih =>
    rw [ofValue_map, ofValue_map]
    refine ih fun s held => agree s ?_
    rwa [Value.texts_map, ← Value.texts_list]

end Agreement

end Stagewright.Variable
