import Stagewright.Proofs.Generation.Exclusivity
import Stagewright.Proofs.Generation.Milestones
import Stagewright.Proofs.Validation.Prefix

/-!
What the checks say about switching a connection that its plan does not switch. A stage that names
its driver and uses no transactions leaves the driver as it is, in each of the three modes; the
checks tell so in two of them.
-/

namespace Stagewright

open Code Connection Generation

section Plan

variable (kind : StrategyKind) (view : View)

/-- A route sets how its connection commits in the one step that is there for it. -/
theorem Connection.settings_of_route :
    (((Mode.select view).route.flatMap (requestBy kind view).code).map Line.statement).filter
        (Statement.sets (Names.conn ⟨view.cid⟩)) =
      stepMilestones kind view .autoCommitSet := by
  have weighty (s : Statement) (sets : s.sets (Names.conn ⟨view.cid⟩) = true) :
      s.isMilestone ⟨view.cid⟩ = true := by
    simp [Statement.isMilestone, sets]
  have cleared : (stepMilestones kind view .init).filter
      (Statement.sets (Names.conn ⟨view.cid⟩)) = [] := rfl
  have address : (stepMilestones kind view .urlBuilt).filter
      (Statement.sets (Names.conn ⟨view.cid⟩)) = [] := by
    refine List.filter_eq_nil_iff.mpr fun s member => ?_
    obtain ⟨e, rfl⟩ := address_assigns s member
    simp [Statement.sets]
  have acquired : [acquisition kind view].filter (Statement.sets (Names.conn ⟨view.cid⟩)) = [] := by
    obtain ⟨e, bound⟩ := acquisition_assigns kind view
    rw [bound]
    rfl
  have setting : (stepMilestones kind view .autoCommitSet).filter
      (Statement.sets (Names.conn ⟨view.cid⟩)) = stepMilestones kind view .autoCommitSet := by
    refine List.filter_eq_self.mpr fun s member => ?_
    obtain ⟨flag, rfl⟩ := setting_sets s member
    simp [Statement.sets]
  have published : (stepMilestones kind view .registered).filter
      (Statement.sets (Names.conn ⟨view.cid⟩)) = [] := by
    rw [stepMilestones, List.filter_append]
    split
    · rw [acquired]
      rfl
    · rfl
  rw [filter_milestones weighty, milestones_route, List.filter_append, cleared]
  by_cases served : Mode.select view = .served
  · rw [if_pos served, List.filter_append, published, setting]
    rfl
  · have connected : stepMilestones kind view .connected = [acquisition kind view] := by
      rw [stepMilestones, if_neg served]
    rw [if_neg served]
    simp only [List.filter_append, address, connected, acquired, setting, published,
      List.nil_append, List.append_nil]

end Plan

/-- No line of a plan sets how the connection of the stage commits. -/
def Code.Unset (cid : String) (code : Code) : Prop :=
  ∀ line ∈ code, beginsWithAny ["conn_" ++ cid ++ ".autocommit = "] line.statement.text = false

/-- The plan of a connection leaves it as the driver made it exactly if the driver is named and no
transactions are used. -/
theorem Generation.unset_stageCode_iff (view : View) :
    (stageCode .connection view).Unset view.cid ↔
      StrategyKind.select view = .driverSpecified ∧ view.flag "use_transaction" = false := by
  have settings := settings_of_route (StrategyKind.select view) view
  have none : (stageCode .connection view).Unset view.cid ↔
      stepMilestones (StrategyKind.select view) view .autoCommitSet = [] := by
    rw [← settings, List.filter_eq_nil_iff, List.forall_mem_map]
    refine forall₂_congr fun line member => ?_
    rw [begins_sets (stageCode_from .connection view line member), Bool.not_eq_true]
  rw [none, stepMilestones, Option.toList_eq_nil_iff]
  cases StrategyKind.select view <;> simp [Strategy.setAutocommit?]

namespace Finding

/-- No other warning reads like the one that a switch has no effect: all others end in another
word. -/
theorem eq_autoCommitIgnored {f : Finding} {cid : String} (warning : f.isWarning = true)
    (same : f.message = (autoCommitIgnored cid).message) : f = .autoCommitIgnored cid := by
  have ending {a b s t : String} (same : a ++ s = b ++ t)
      (notEmpty : s.toList ≠ [] ∧ t.toList ≠ []) :
      s.toList.getLast? = t.toList.getLast? := by
    have last := congrArg (fun s => s.toList.getLast?) same
    simpa only [String.toList_append, List.getLast?_append_of_ne_nil _ notEmpty.1,
      List.getLast?_append_of_ne_nil _ notEmpty.2] using last
  cases f with
  | autoCommitIgnored other =>
    have chars := congrArg String.toList same
    simp only [message, String.toList_append, List.append_cancel_right_eq] at chars
    rw [String.toList_inj.mp chars]
  | aliasIgnored other => exact absurd (ending same (by decide)) (by decide)
  | defaultDriver other => exact absurd (ending same (by decide)) (by decide)
  | noStages job => exact absurd (ending same (by decide)) (by decide)
  | _ => exact absurd warning (by simp [isWarning])

end Finding

theorem ValidationResult.ignored_mem_warnings {findings : List Finding} {cid : String} :
    (Finding.autoCommitIgnored cid).message ∈ (ofFindings findings).warnings ↔
      .autoCommitIgnored cid ∈ findings := by
  have said : (Finding.autoCommitIgnored cid).message ∈ (ofFindings findings).warnings ↔
      ∃ f ∈ findings, f.isWarning = true ∧ f.message = (Finding.autoCommitIgnored cid).message := by
    simp [ofFindings, warnings_foldl, and_assoc]
  refine said.trans ⟨?_, fun found => ⟨_, found, rfl, rfl⟩⟩
  rintro ⟨f, found, warning, same⟩
  exact Finding.eq_autoCommitIgnored warning same ▸ found

namespace Validation

open ValidationResult

theorem autoCommitIgnored_mem_connectionFindings {view : View} :
    .autoCommitIgnored view.cid ∈ connectionFindings view ↔
      Mode.select view ≠ .served ∧ StrategyKind.select view = .driverSpecified ∧
        view.flag "use_transaction" = false ∧ view.flag "auto_commit" = true := by
  have driver : .autoCommitIgnored view.cid ∈ driverFindings view ↔
      StrategyKind.select view = .driverSpecified ∧
        view.flag "use_transaction" = false ∧ view.flag "auto_commit" = true := by
    unfold driverFindings
    cases StrategyKind.select view <;> simp [mem_finding]
  by_cases served : Mode.select view = .served
  · simp [connectionFindings, mem_finding, served]
  · simp [connectionFindings, mem_finding, served, driver]

/-- In a job no two stages of which go by one cid, what is warned about a cid is warned about the
stage that goes by it. -/
theorem ignored_mem_warnings_iff {job : Job} (distinct : job.cids.Nodup) {i : Nat} {stage : Stage}
    (place : job.stages[i]? = some stage) :
    (Finding.autoCommitIgnored stage.cid).message ∈ (conclusion job).warnings ↔
      .autoCommitIgnored stage.cid ∈
        findingsAt job.settings (registered (job.stages.take i)).reverse stage := by
  refine ignored_mem_warnings.trans ⟨fun found => ?_, fun found => List.mem_append_left _ ?_⟩
  · rcases List.mem_append.mp found with atStage | unstaged
    · obtain ⟨j, other, otherPlace, member⟩ := mem_stageFindings.mp atStage
      have cids : other.cid = stage.cid := (Option.some.inj (cid_of_findingsAt member)).symm
      have inRange : j < job.cids.length := by
        have := (List.getElem?_eq_some_iff.mp otherPlace).1
        simpa [Job.cids] using this
      obtain rfl : j = i := (List.getElem?_inj inRange distinct).mp
        (by simp [Job.cids, place, otherPlace, cids])
      obtain rfl := Option.some.inj (place.symm.trans otherPlace)
      simpa using member
    · exact absurd (mem_finding.mp unstaged).2 (by simp)
  · exact mem_stageFindings.mpr ⟨i, stage, place, by simpa using found⟩

/-- A connection that is to commit each statement by itself is warned about exactly if its plan does
not set that, unless it is served: then nothing is said, and a plan that leaves out the setting goes
unnoticed. What the plan leaves out is the same in every mode. -/
theorem autocommit_warned_unless_served (job : Job) {i : Nat} {stage : Stage}
    (place : job.stages[i]? = some stage) (connection : stage.kind = StageKind.connection.name)
    (committing : View.flag ⟨stage, job.settings⟩ "auto_commit" = true)
    (checked : Validation.excess? job = none)
    (planned : Generation.excess? .connection ⟨stage, job.settings⟩ = none) :
    let view : View := ⟨stage, job.settings⟩
    let ignored := (Finding.autoCommitIgnored stage.cid).message
    ∃ result records plan errors warnings,
      validate job = .ok (result, records) ∧ (planConnection view).1 = .ok plan ∧
      Adds job.settings (job.stages.take i) stage errors warnings ∧
      (ignored ∈ warnings ↔ plan.code.Unset stage.cid ∧ Mode.select view ≠ .served) ∧
      (job.cids.Nodup → (ignored ∈ result.warnings ↔ ignored ∈ warnings)) ∧
      (plan.code.Unset stage.cid ↔
        StrategyKind.select view = .driverSpecified ∧ view.flag "use_transaction" = false) := by
  intro view ignored
  have unset := unset_stageCode_iff view
  have findings : findingsAt job.settings (registered (job.stages.take i)).reverse stage =
      connectionFindings view := if_pos connection
  refine ⟨_, _, _, _, _, validate_ok_iff.mpr ⟨checked, rfl, rfl⟩, planConnection_ok planned,
    adds_findingsAt (job.stages.take i) stage, ?_, fun distinct => ?_, unset⟩
  · refine ignored_mem_warnings.trans ?_
    rw [findings]
    refine autoCommitIgnored_mem_connectionFindings.trans ?_
    change _ ↔ (stageCode .connection view).Unset view.cid ∧ _
    rw [unset]
    constructor
    · rintro ⟨notServed, specified, untold, -⟩
      exact ⟨⟨specified, untold⟩, notServed⟩
    · rintro ⟨⟨specified, untold⟩, notServed⟩
      exact ⟨notServed, specified, untold, committing⟩
  · exact (ignored_mem_warnings_iff distinct place).trans ignored_mem_warnings.symm

/-- A stage that names its driver and uses no transactions, with what else it is given. -/
def switching (more : Mapping) : Stage where
  cid := "c"
  params := more ++ [(.text "driver_jar", .text "\"x.jar\""), (.text "auto_commit", .bool true),
    (.text "use_transaction", .bool false)]

/-- The job of a single stage. -/
def single (stage : Stage) : Job := { name := "j", stages := [stage] }

/-- A connection of its own is warned about: its plan does not switch it. -/
theorem direct_switch_warned :
    View.flag ⟨switching [], {}⟩ "auto_commit" = true ∧
    ∃ result records plan, validate (single (switching [])) = .ok (result, records) ∧
      (planConnection ⟨switching [], {}⟩).1 = .ok plan ∧ plan.code.Unset "c" ∧
      "c: 'auto_commit' has no effect while 'use_transaction' is false" ∈ result.warnings := by
  have place : (single (switching [])).stages[0]? = some (switching []) := rfl
  have committing : View.flag ⟨switching [], {}⟩ "auto_commit" = true := by decide +kernel
  obtain ⟨result, records, plan, errors, warnings, validated, planned, -, warned, inJob, unset⟩ :=
    autocommit_warned_unless_served (single (switching [])) place rfl committing
      (by decide +kernel) (by decide +kernel)
  have left : plan.code.Unset "c" := unset.mpr (by decide +kernel)
  have distinct : (single (switching [])).cids.Nodup := by decide
  exact ⟨committing, result, records, plan, validated, planned, left,
    (inJob distinct).mpr (warned.mpr ⟨left, by decide +kernel⟩)⟩

/-- A connection that is looked up by its alias. -/
def servedSwitching : Stage :=
  switching [(.text "specify_datasource_alias", .bool true),
    (.text "datasource_alias", .text "\"d\"")]

/-- The same switch on a connection that is served is not made either, and nothing is said. -/
theorem served_switch_not_warned :
    View.flag ⟨servedSwitching, {}⟩ "auto_commit" = true ∧
    ∃ result records plan, validate (single servedSwitching) = .ok (result, records) ∧
      (planConnection ⟨servedSwitching, {}⟩).1 = .ok plan ∧ plan.code.Unset "c" ∧
      result.warnings = [] := by
  have validated :=
    (@validate_ok_iff (single servedSwitching) _ _).mpr ⟨by decide +kernel, rfl, rfl⟩
  have planned := @planConnection_ok ⟨servedSwitching, {}⟩ (by decide +kernel)
  refine ⟨by decide +kernel, _, _, _, validated, planned, ?_, by decide +kernel⟩
  exact (unset_stageCode_iff ⟨servedSwitching, {}⟩).mpr (by decide +kernel)

end Validation

end Stagewright
