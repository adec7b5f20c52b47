import Stagewright.Proofs.Validation.References

/-!
The checks go from stage to stage. What they say about the first stages of a job they say whatever
stages come behind; and what they say about a stage they say of it behind any stages that have
registered the same connections.
-/

namespace Stagewright

namespace ValidationResult

/-- A result is invalid exactly if there is an error in it. -/
def Consistent (result : ValidationResult) : Prop := result.isValid = false ↔ result.errors ≠ []

theorem Consistent.add {result : ValidationResult} (consistent : result.Consistent)
    (finding : Finding) : (result.add finding).Consistent := by
  unfold ValidationResult.add
  split
  · exact consistent
  · exact iff_of_true rfl (by simp [addError])

theorem Consistent.foldl {result : ValidationResult} (consistent : result.Consistent)
    (findings : List Finding) : (findings.foldl ValidationResult.add result).Consistent := by
  induction findings generalizing result with
  | nil => exact consistent
  | cons finding rest ih => exact ih (consistent.add finding)

theorem warnings_foldl (result : ValidationResult) (findings : List Finding) :
    (findings.foldl add result).warnings =
      result.warnings ++ (findings.filter Finding.isWarning).map Finding.message := by
  induction findings generalizing result with
  | nil => simp
  | cons f rest ih =>
    rw [List.foldl_cons, ih]
    cases warning : f.isWarning with
    | true => simp [add, warning, addWarning]
    | false => simp [add, warning, addError]

theorem errors_ofFindings_append (first more : List Finding) :
    (ofFindings (first ++ more)).errors =
      (ofFindings first).errors ++ (ofFindings more).errors := by
  simp [ofFindings, errors_foldl]

theorem warnings_ofFindings_append (first more : List Finding) :
    (ofFindings (first ++ more)).warnings =
      (ofFindings first).warnings ++ (ofFindings more).warnings := by
  simp [ofFindings, warnings_foldl]

end ValidationResult

namespace Validation

open ValidationResult

variable {settings settings' : Settings}

/-- Stages behind others are checked by themselves, but for the connections that these have
registered. -/
theorem stageFindings_append (known : List String) (first more : List Stage) :
    stageFindings settings known (first ++ more) = stageFindings settings known first ++
      stageFindings settings ((registered first).reverse ++ known) more := by
  induction first generalizing known with
  | nil => rfl
  | cons stage rest ih =>
    by_cases connection : stage.kind = StageKind.connection.name
    · simp [stageFindings, registered, connection, ih]
    · simp [stageFindings, registered, connection, ih]

theorem stageFindings_singleton (known : List String) (stage : Stage) :
    stageFindings settings known [stage] = findingsAt settings known stage := by
  rw [stageFindings, stageFindings, List.append_nil]

/-- What is found about a stage depends on nothing but the stage and which connections have been
registered before. -/
theorem findingsAt_congr {known other : List String} (same : ∀ cid, cid ∈ known ↔ cid ∈ other)
    (stage : Stage) : findingsAt settings known stage = findingsAt settings' other stage := by
  have contains (cid : String) : known.contains cid = other.contains cid := by
    simp [same]
  unfold findingsAt
  split
  · rfl
  · simp only [referenceFindings, contains]
    rfl

/-- What the checks say about stages, the first of which comes first. -/
def found (settings : Settings) (stages : List Stage) : ValidationResult :=
  ofFindings (stageFindings settings [] stages)

theorem conclusion_eq_found {job : Job} (given : job.stages ≠ []) :
    conclusion job = found job.settings job.stages := by
  have none : finding job.stages.isEmpty (.noStages job.name) = [] := by
    rw [finding, if_neg (by simpa using given)]
  rw [conclusion, findings, none, List.append_nil, found]

theorem consistent_found (stages : List Stage) : (found settings stages).Consistent :=
  Consistent.foldl (by simp [Consistent]) _

/-- What the checks add about a stage behind others. -/
structure Adds (settings : Settings) (before : List Stage) (stage : Stage)
    (errors warnings : List String) : Prop where
  errors : (found settings (before ++ [stage])).errors = (found settings before).errors ++ errors
  warnings : (found settings (before ++ [stage])).warnings =
    (found settings before).warnings ++ warnings

theorem adds_findingsAt (before : List Stage) (stage : Stage) :
    Adds settings before stage
      (ofFindings (findingsAt settings (registered before).reverse stage)).errors
      (ofFindings (findingsAt settings (registered before).reverse stage)).warnings := by
  constructor
  · rw [found, stageFindings_append, errors_ofFindings_append, stageFindings_singleton,
      List.append_nil]
    rfl
  · rw [found, stageFindings_append, warnings_ofFindings_append, stageFindings_singleton,
      List.append_nil]
    rfl

/-- The same is added about a stage behind stages that have registered the same connections. -/
theorem adds_same {before other : List Stage}
    (same : ∀ cid, cid ∈ registered before ↔ cid ∈ registered other) (stage : Stage) :
    ∃ errors warnings, Adds settings before stage errors warnings ∧
      Adds settings' other stage errors warnings := by
  have alike : findingsAt settings' (registered other).reverse stage =
      findingsAt settings (registered before).reverse stage :=
    findingsAt_congr (by simpa using fun cid => (same cid).symm) stage
  exact ⟨_, _, adds_findingsAt before stage, alike ▸ adds_findingsAt other stage⟩

theorem found_append (before more : List Stage) :
    (found settings before).errors <+: (found settings (before ++ more)).errors ∧
      (found settings before).warnings <+: (found settings (before ++ more)).warnings := by
  rw [found, found, stageFindings_append, errors_ofFindings_append, warnings_ofFindings_append]
  exact ⟨List.prefix_append _ _, List.prefix_append _ _⟩

/-- The checks go from stage to stage, up to one with something to look at that there is too much
in: then they say nothing at all. Otherwise what they say about the first stages stays what they say
with others behind, a result is invalid exactly if it holds an error, and what a stage adds to it
depends on the stage and on the connections that are registered before, and not even on their order
or on the settings of the job. -/
theorem checked_stage_by_stage (job : Job) (more : List Stage) (given : job.stages ≠ []) :
    let longer : Job := { job with stages := job.stages ++ more }
    (∀ result records, validate longer = .ok (result, records) →
      ∃ before earlier, validate job = .ok (before, earlier) ∧
        before.errors <+: result.errors ∧ before.warnings <+: result.warnings) ∧
    (∀ result records, validate job = .ok (result, records) →
      result = found job.settings job.stages ∧ (result.isValid = false ↔ result.errors ≠ [])) ∧
    (∀ e, validate job = .error e ↔
      ∃ before stage after, job.stages = before ++ stage :: after ∧
        stageExcess? job.settings stage = some e ∧
        ∀ earlier ∈ before, stageExcess? job.settings earlier = none) ∧
    ∀ (settings settings' : Settings) (before other : List Stage) (stage : Stage),
      stageExcess? settings stage = stageExcess? settings' stage ∧
        ((∀ cid, cid ∈ registered before ↔ cid ∈ registered other) →
          ∃ errors warnings, Adds settings before stage errors warnings ∧
            Adds settings' other stage errors warnings) := by
  have longerGiven : job.stages ++ more ≠ [] := by simp [given]
  refine ⟨fun result records checked => ?_, fun result records checked => ?_, fun e => ?_,
    fun settings settings' before other stage => ⟨rfl, fun same => adds_same same stage⟩⟩
  · obtain ⟨all, rfl, -⟩ := validate_ok_iff.mp checked
    have first : excess? job = none := by
      rw [excess?, List.findSome?_append, Option.or_eq_none_iff] at all
      exact all.1
    refine ⟨_, _, validate_ok_iff.mpr ⟨first, rfl, rfl⟩, ?_⟩
    rw [conclusion_eq_found given, conclusion_eq_found longerGiven]
    exact found_append job.stages more
  · obtain ⟨-, rfl, -⟩ := validate_ok_iff.mp checked
    rw [conclusion_eq_found given]
    exact ⟨rfl, consistent_found job.stages⟩
  · rw [← List.findSome?_eq_some_iff, validate_eq, excess?]
    cases job.stages.findSome? (stageExcess? job.settings) <;> simp

/-- A connection that is to be looked up by an alias which is not given. -/
def unnamed : Stage := { cid := "c", params := [(.text "specify_datasource_alias", .bool true)] }

/-- A stage that commits what a parameter says. -/
def committing (connection : Value) : Stage :=
  { cid := "d", kind := StageKind.commit.name, params := [(.text "connection", connection)] }

/-- The error about a connection without an alias stays the first one when a stage is added that
commits a connection nobody has registered. -/
theorem unnamed_then_commit_checked :
    let job : Job := { name := "j", stages := [unnamed] }
    let longer : Job := { job with stages := job.stages ++ [committing (.text "e")] }
    job.stages ≠ [] ∧ ∃ before earlier result records,
      validate job = .ok (before, earlier) ∧
      validate longer = .ok (result, records) ∧
      before.errors <+: result.errors ∧
      before.errors = ["c: datasource alias enabled without 'datasource_alias'"] ∧
      result.errors.length = 2 ∧ result.isValid = false := by
  intro job longer
  have given : job.stages ≠ [] := by simp [job]
  have stages := checked_stage_by_stage job [committing (.text "e")] given
  have checked := (@validate_ok_iff longer _ _).mpr ⟨by decide +kernel, rfl, rfl⟩
  obtain ⟨before, earlier, first, errors, -⟩ := stages.1 _ _ checked
  refine ⟨given, before, earlier, _, _, first, checked, errors, ?_, by decide +kernel,
    by decide +kernel⟩
  rw [(stages.2.1 _ _ first).1]
  decide +kernel

/-- With a stage behind it that commits a number which cannot be written out, nothing is said about
a connection either. -/
theorem findings_not_always_kept :
    let job : Job := { name := "j", stages := [unnamed] }
    let number : Value := .int (Nat.pow 10 Excess.mostDigits)
    (∃ result records, validate job = .ok (result, records) ∧
      result.errors = ["c: datasource alias enabled without 'datasource_alias'"]) ∧
    validate { job with stages := job.stages ++ [committing number] } = .error .digits := by
  intro job number
  have unchecked : excess? { job with stages := job.stages ++ [committing number] } =
      some .digits := by decide +kernel
  refine ⟨⟨_, _, validate_ok_iff.mpr ⟨by decide +kernel, rfl, rfl⟩, by decide +kernel⟩, ?_⟩
  rw [validate_eq, unchecked]

end Validation

end Stagewright
