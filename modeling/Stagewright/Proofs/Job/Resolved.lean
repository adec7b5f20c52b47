import Stagewright.Proofs.Job.Accepted
import Stagewright.Proofs.Variable.Rewriting

/-!
Documents whose references have been replaced. What is read of a job is read of such a document.
-/

namespace Stagewright

open Attempt

namespace Variable

theorem substituteEntries_get? (scope : Scope) (entries : Mapping) (key : String) :
    Mapping.get? (substituteEntries scope entries).1 key =
      (entries.get? key).map fun v => (substituteValue scope v).1 := by
  rw [substituteEntries_eq, Mapping.get?, Dict.get?, List.find?_map, Mapping.get?, Dict.get?]
  simp [Function.comp_def]

/-- What is not given is not given either once references have been replaced, and what is given is
given unless it is a text. -/
theorem given?_substituteValue (scope : Scope) {v : Option Value}
    (noText : ∀ s, v ≠ some (.text s)) :
    Value.given? (v.map fun v => (substituteValue scope v).1) =
      (Value.given? v).map fun v => (substituteValue scope v).1 := by
  cases v with
  | none => rfl
  | some v =>
    have same := substituteValue_isVoid scope fun s text => noText s (congrArg some text)
    simp only [Option.map_some, Value.given?, Option.filter_some, same]
    split <;> rfl

/-- The mapping of a document is itself one of the collections that can be walked through. -/
theorem Reach.ofValue_mostLevels (scope : Scope) (document : Mapping) :
    ofValue scope Excess.mostLevels (.map document) =
      ofEntries scope (Excess.mostLevels - 1) document := by
  rw [ofValue, if_neg (by decide)]

end Variable

namespace Job

/-- What a document comes to when the variables have taken the place of their references. -/
def ResolvesTo (document overrides environment resolved : Mapping) : Prop :=
  ∃ own, Value.entries? (document.get? "variables") = some own ∧
    (Variable.resolve (Variable.scopeOf environment own overrides) Excess.mostLevels
      (.map (document.erase (.text "variables")))).1 = .ok (.map resolved)

theorem resolve_map_ok_iff {scope : Variable.Scope} {document resolved : Mapping} :
    (Variable.resolve scope Excess.mostLevels (.map document)).1 = .ok (.map resolved) ↔
      (Variable.Reach.ofEntries scope (Excess.mostLevels - 1) document).stop = none ∧
        (Variable.substituteEntries scope document).1 = resolved := by
  rw [Variable.resolve, Variable.Reach.ofValue_mostLevels, Variable.substituteValue]
  cases (Variable.Reach.ofEntries scope (Excess.mostLevels - 1) document).stop <;> simp

/-- The same is too much in the name of a job before and after its references have been replaced. -/
theorem name_excess? (scope : Variable.Scope) (document : Mapping) :
    (Value.given? (Mapping.get? (Variable.substituteEntries scope document).1 "job")).bind
        Value.excess? = (Value.given? (document.get? "job")).bind Value.excess? := by
  rw [Variable.substituteEntries_get?]
  by_cases text : ∃ s, document.get? "job" = some (.text s)
  · obtain ⟨s, text⟩ := text
    have never (t : String) : (Value.given? (some (.text t))).bind Value.excess? = none := by
      cases given : Value.given? (some (Value.text t)) with
      | none => rfl
      | some v =>
        obtain rfl := Option.some.inj (Option.filter_eq_some_iff.mp given).1
        rfl
    rw [text, Option.map_some, Variable.substituteValue, never, never]
  · rw [Variable.given?_substituteValue scope fun s found => text ⟨s, found⟩, Option.bind_map]
    exact congrArg _ (funext fun v => Variable.substituteValue_excessIn? scope _ v)

theorem excess?_eq_none_iff {document overrides environment own : Mapping}
    (declared : Value.entries? (document.get? "variables") = some own) :
    excess? document overrides environment = none ↔
      (Variable.Reach.ofEntries (Variable.scopeOf environment own overrides)
          (Excess.mostLevels - 1) (document.erase (.text "variables"))).stop = none ∧
        (Value.given? (Mapping.get? (document.erase (.text "variables")) "job")).bind
          Value.excess? = none := by
  rw [excess?, declared, Option.bind_some]
  cases stop : (Variable.Reach.ofEntries (Variable.scopeOf environment own overrides)
    (Excess.mostLevels - 1) (document.erase (.text "variables"))).stop <;> simp [stop]

/-- A job is read if the references of its document can be replaced, and what is left then is a job
whose name can be written out. -/
theorem read_ok_iff_resolved {document overrides environment : Mapping} {source : Option String}
    {job : Job} :
    (Job.read document overrides environment source).1 = .ok job ↔
      ∃ resolved, ResolvesTo document overrides environment resolved ∧
        (Value.given? (resolved.get? "job")).bind Value.excess? = none ∧
        ofResolved resolved source = .ok job := by
  rw [read_ok_iff]
  constructor
  · rintro ⟨nothing, own, declared, made⟩
    obtain ⟨goesOn, writable⟩ := (excess?_eq_none_iff declared).mp nothing
    exact ⟨_, ⟨own, declared, resolve_map_ok_iff.mpr ⟨goesOn, rfl⟩⟩,
      (name_excess? _ _).trans writable, made⟩
  · rintro ⟨resolved, ⟨own, declared, resolves⟩, writable, made⟩
    obtain ⟨goesOn, rfl⟩ := resolve_map_ok_iff.mp resolves
    exact ⟨(excess?_eq_none_iff declared).mpr ⟨goesOn, (name_excess? _ _).symm.trans writable⟩, own,
      declared, made⟩

/-- Settings stay a mapping, and not given if they are not. -/
theorem ResolvesTo.settings {document overrides environment resolved : Mapping}
    (resolves : ResolvesTo document overrides environment resolved)
    (declared : (Value.entries? (document.get? "globals")).isSome = true) :
    ∃ settings, Value.entries? (resolved.get? "globals") = some settings := by
  obtain ⟨own, -, replaced⟩ := resolves
  obtain ⟨-, rfl⟩ := resolve_map_ok_iff.mp replaced
  rw [Variable.substituteEntries_get?, Mapping.get?_erase document (by decide)]
  generalize document.get? "globals" = v at declared
  by_cases text : ∃ s, v = some (.text s)
  · obtain ⟨s, rfl⟩ := text
    -- a text sets nothing only if it is empty, and then it has no references
    have empty : s = "" := by
      cases void : (Value.text s).isVoid with
      | true => simpa [Value.isVoid, Scalar.isVoid] using void
      | false => simp [Value.entries?, Value.given?, Option.filter_some, void] at declared
    subst empty
    exact ⟨[], rfl⟩
  · rw [Value.entries?, Variable.given?_substituteValue _ fun s found => text ⟨s, found⟩]
    rw [Value.entries?] at declared
    cases given : Value.given? v with
    | none => exact ⟨[], rfl⟩
    | some w =>
      rw [given] at declared
      cases w with
      | map entries => exact ⟨_, rfl⟩
      | _ => simp at declared

end Job

end Stagewright
