import Stagewright.Job.File
import Stagewright.Proofs.Attempt

/-!
What is known about a job that has been read. Its stages are of kinds that there are, they go by
identifiers, and no two of them go by the same one.
-/

namespace Stagewright

open Attempt

/-- What has been checked about a stage that comes after stages with the cids `seen`. -/
structure Stage.Accepted (seen : List String) (stage : Stage) : Prop where
  known : (StageKind.ofName? stage.kind).isSome
  identifier : Text.isIdentifier stage.cid
  fresh : stage.cid ∉ seen

/-- What has been checked about the stages of a job. -/
structure Job.Accepted (job : Job) : Prop where
  known : ∀ stage ∈ job.stages, (StageKind.ofName? stage.kind).isSome
  identifiers : ∀ stage ∈ job.stages, Text.isIdentifier stage.cid
  distinct : job.cids.Nodup

namespace Job

theorem checkStage_ok_iff {seen : List String} {position : Nat} {v : Value} {stage : Stage} :
    checkStage seen position v = .ok stage ↔ Stage.ofValue v = .ok stage ∧ stage.Accepted seen := by
  simp only [checkStage, bind_ok, mapError_ok, refuse_ok, pure_ok]
  refine ⟨?_, ?_⟩
  · rintro ⟨other, made, known, identifier, fresh, rfl⟩
    exact ⟨made, by simpa [Option.isSome_iff_ne_none] using known, by simpa using identifier,
      by simpa using fresh⟩
  · rintro ⟨made, known, identifier, fresh⟩
    exact ⟨stage, made, by simpa [Option.isSome_iff_ne_none] using known, by simpa using identifier,
      by simpa using fresh, rfl⟩

/-- Each stage has been checked against the cids of those before it. -/
theorem checkStages_accepted {seen : List String} {position : Nat} {values : List Value}
    {stages : List Stage} (checked : checkStages seen position values = .ok stages) :
    (∀ stage ∈ stages, stage.Accepted seen) ∧ (stages.map (·.cid)).Nodup := by
  induction values generalizing seen position stages with
  | nil =>
    obtain rfl : [] = stages := by simpa [checkStages] using checked
    exact ⟨by simp, by simp⟩
  | cons v values ih =>
    simp only [checkStages, bind_ok, pure_ok] at checked
    obtain ⟨stage, first, rest, later, rfl⟩ := checked
    obtain ⟨-, accepted⟩ := checkStage_ok_iff.mp first
    obtain ⟨behind, distinct⟩ := ih later
    have apart : ∀ other ∈ rest, stage.cid ≠ other.cid := by
      intro other member same
      have fresh := (behind other member).fresh
      simp [same] at fresh
    refine ⟨?_, ?_⟩
    · intro other member
      obtain rfl | member := List.mem_cons.mp member
      · exact accepted
      · have checked := behind other member
        exact ⟨checked.known, checked.identifier,
          fun before => checked.fresh (List.mem_append_left _ before)⟩
    · rw [List.map_cons, List.nodup_cons]
      refine ⟨?_, distinct⟩
      intro found
      obtain ⟨other, member, same⟩ := List.mem_map.mp found
      exact apart other member same.symm

theorem ofResolved_stages {document : Mapping} {source : Option String} {job : Job}
    (resolved : ofResolved document source = .ok job) :
    ∃ values, checkStages [] 1 values = .ok job.stages := by
  simp only [ofResolved, bind_ok] at resolved
  obtain ⟨name, -, values, -, stages, checked, rest⟩ := resolved
  refine ⟨values, ?_⟩
  split at rest
  · obtain rfl := pure_ok.mp rest
    exact checked
  · exact (throw_ok.mp rest).elim

/-- A job is read if nothing in its document is too much, the variables of the document are a
mapping, and what is left once they have replaced their references is a job. -/
theorem read_ok_iff {document overrides environment : Mapping} {source : Option String}
    {job : Job} :
    (Job.read document overrides environment source).1 = .ok job ↔
      excess? document overrides environment = none ∧
      ∃ own, Value.entries? (document.get? "variables") = some own ∧
        ofResolved (Variable.substituteEntries (Variable.scopeOf environment own overrides)
          (document.erase (.text "variables"))).1 source = .ok job := by
  unfold Job.read
  cases excess : excess? document overrides environment with
  | some found => simp
  | none =>
    simp only [mapError_ok, true_and]
    unfold ofDocument
    cases entries : Value.entries? (document.get? "variables") with
    | none => simp
    | some own =>
      simp only [Option.some.injEq, exists_eq_left']
      cases ofResolved (Variable.substituteEntries (Variable.scopeOf environment own overrides)
        (document.erase (.text "variables"))).1 source <;> simp

theorem read_accepted {document overrides environment : Mapping} {source : Option String}
    {job : Job} (read : (Job.read document overrides environment source).1 = .ok job) :
    job.Accepted := by
  obtain ⟨-, own, -, resolved⟩ := read_ok_iff.mp read
  obtain ⟨values, checked⟩ := ofResolved_stages resolved
  obtain ⟨accepted, distinct⟩ := checkStages_accepted checked
  exact ⟨fun stage member => (accepted stage member).known,
    fun stage member => (accepted stage member).identifier, distinct⟩

/-- Stages at two places of a job that has been read go by two cids. -/
theorem Accepted.cid_ne {job : Job} (accepted : job.Accepted) {i j : Nat} {a b : Stage}
    (first : job.stages[i]? = some a) (second : job.stages[j]? = some b) (apart : i ≠ j) :
    a.cid ≠ b.cid := by
  intro same
  have atFirst : job.cids[i]? = some a.cid := by
    rw [cids, List.getElem?_map, first]
    rfl
  have atSecond : job.cids[j]? = some a.cid := by
    rw [cids, List.getElem?_map, second, same]
    rfl
  have inRange := (List.getElem?_eq_some_iff.mp atFirst).1
  exact apart ((List.getElem?_inj inRange accepted.distinct).mp (atFirst.trans atSecond.symm))

end Job

end Stagewright
