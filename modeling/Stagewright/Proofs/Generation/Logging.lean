import Mathlib.Data.List.Forall2
import Stagewright.Proofs.Generation.Vocabulary
import Stagewright.Proofs.Lifecycle.Script

/-!
The log of a job only annotates its program. Without a log nothing that reports is written.
-/

namespace Stagewright

/-- The same job, which keeps a log or keeps none. -/
def Job.withLog (job : Job) (enabled : Bool) : Job :=
  { job with settings := { job.settings with logEnabled := enabled } }

namespace Code

/-- Two fragments of one stage, the second with annotations. -/
structure Fragment.Annotates (quiet loud : Fragment) : Prop where
  cid : quiet.cid = loud.cid
  component : quiet.component = loud.component
  code : Annotated ⟨quiet.cid⟩ quiet.code loud.code

end Code

end Stagewright

namespace Stagewright.Connection

open Code Lifecycle

/-- The request of a stage whose job keeps a log, or keeps none. -/
def Request.withLog (request : Request) (enabled : Bool) : Request where
  view := request.view.withLog enabled
  names := request.names
  strategy := { request.strategy with view := request.strategy.view.withLog enabled }

theorem Request.code_annotated (request : Request) (state : State) :
    Annotated request.names ((request.withLog false).code state)
      ((request.withLog true).code state) := by
  rw [code_eq, code_eq]
  cases state with
  | init => exact .refl _
  | driverLoaded => exact (Annotated.refl _).append (Operation.code_annotated request.view _)
  | urlBuilt => exact .refl _
  | connected =>
    refine .append (.ite (fun _ => ?_) fun _ => ?_) (.ite (fun _ => ?_) fun _ => .nil)
    · exact (Operation.code_annotated request.view .shareLog).append (.refl _)
    · exact Operation.code_annotated request.view (.connect request.strategy.connect)
    · exact reuse_annotated request.view
  | autoCommitSet =>
    have quiet : (request.withLog false).strategy.setAutocommit? =
        request.strategy.setAutocommit? := rfl
    have loud : (request.withLog true).strategy.setAutocommit? =
        request.strategy.setAutocommit? := rfl
    have flag (enabled : Bool) : (request.withLog enabled).view.flag "auto_commit" =
        request.view.flag "auto_commit" := rfl
    simp only [quiet, loud, flag]
    cases request.strategy.setAutocommit? (request.view.flag "auto_commit") with
    | none => exact .refl _
    | some setting =>
      exact .block _ (Operation.code_annotated request.view (.autoCommit _ setting))
  | registered => exact .refl _
  | done => exact .refl _

theorem Request.steps_annotated (request : Request) (steps : List State) :
    Annotated request.names (steps.flatMap (request.withLog false).code)
      (steps.flatMap (request.withLog true).code) := by
  induction steps with
  | nil => exact .nil
  | cons state rest ih => exact (request.code_annotated state).append ih

end Stagewright.Connection

namespace Stagewright.Generation

open Code Lifecycle Connection

theorem effectCode_annotated (view : View) (names : Names) (e : Effect) :
    Annotated names (effectCode (view.withLog false) names e)
      (effectCode (view.withLog true) names e) := by
  rw [effectCode_eq, effectCode_eq]
  refine ((Annotated.refl _).append (reuse_annotated view)).append (.block _ ?_)
  refine ((Annotated.refl _).append (Operation.code_annotated view (.effect e))).append ?_
  exact .ite (fun _ => Operation.code_annotated view (.effect .close)) fun _ => .nil

theorem stageCode_annotated (kind : StageKind) (view : View) :
    Annotated ⟨view.cid⟩ (stageCode kind (view.withLog false))
      (stageCode kind (view.withLog true)) := by
  cases kind with
  | connection => exact (request view).steps_annotated (request view).mode.route
  | commit => exact effectCode_annotated view ⟨view.cid⟩ .commit
  | rollback => exact effectCode_annotated view ⟨view.cid⟩ .rollback
  | close => exact effectCode_annotated view ⟨view.cid⟩ .close

theorem stageCode_silent (kind : StageKind) (view : View) :
    ∀ line ∈ stageCode kind (view.withLog false), line.statement.isReport = false :=
  fun line found => (stageCode_allowed kind (view.withLog false) line found).not_isReport

/-- Whether a stage reports on the connection that it gets. The stages that end the work on one ask
for its label whether there is a log or not. -/
def reports (kind : StageKind) (view : View) : Bool :=
  kind = .connection && Mode.select view ≠ .served && view.flag "use_existing_connection"

section Demands

variable (view : View)

theorem excess?_reuseKeys_withLog :
    view.excess? (reuseKeys (view.withLog true)) = none ↔
      view.excess? (reuseKeys (view.withLog false)) = none ∧
        Clear view (view.flag "use_existing_connection") := by
  have flag (enabled : Bool) : (view.withLog enabled).flag "use_existing_connection" =
      view.flag "use_existing_connection" := rfl
  rw [reuseKeys, reuseKeys, flag, flag]
  cases view.flag "use_existing_connection" with
  | false => simp [Clear]
  | true => simpa using Operation.reuse.demands_withLog view

theorem excess?_routeKeys_withLog :
    view.excess? (routeKeys (view.withLog true)) = none ↔
      view.excess? (routeKeys (view.withLog false)) = none ∧
        Clear view (reports .connection view) := by
  have mode (enabled : Bool) : Mode.select (view.withLog enabled) = Mode.select view := rfl
  have driver (enabled : Bool) : (request (view.withLog enabled)).strategy.classKeys =
      (request view).strategy.classKeys := rfl
  have switch (enabled : Bool) : (request (view.withLog enabled)).strategy.autocommitKeys =
      (request view).strategy.autocommitKeys := rfl
  have reuse := excess?_reuseKeys_withLog view
  simp only [routeKeys_eq, mode, driver, switch, reports]
  cases Mode.select view with
  | served => simp [Clear]
  | direct =>
    simp only [View.excess?_append, Option.or_eq_none_iff, reuse]
    exact ⟨fun ⟨⟨before, again, clear⟩, after⟩ => ⟨⟨⟨before, again⟩, after⟩, clear⟩,
      fun ⟨⟨⟨before, again⟩, after⟩, clear⟩ => ⟨⟨before, again, clear⟩, after⟩⟩
  | shared =>
    simp only [View.excess?_append, View.excess?_cons, Option.or_eq_none_iff, reuse]
    exact ⟨fun ⟨⟨before, switch, again, clear⟩, after⟩ =>
        ⟨⟨⟨before, switch, again⟩, after⟩, clear⟩,
      fun ⟨⟨⟨before, switch, again⟩, after⟩, clear⟩ => ⟨⟨before, switch, again, clear⟩, after⟩⟩

/-- The label of the connection is asked for by the messages about an effect anyway. -/
theorem excess?_effect_withLog (names : Names) (e : Effect) :
    view.excess? ((effectParts (view.withLog true) names e).flatMap Part.keys) = none ↔
      view.excess? ((effectParts (view.withLog false) names e).flatMap Part.keys) = none := by
  have asked (fits : view.excess? ((Operation.effect e).keys view) = none) :
      view.excess? (Operation.reuse.demands (view.withLog true)) = none := by
    rw [Operation.keys_effect, View.excess?_append, Option.or_eq_none_iff] at fits
    simp only [Operation.demands]
    split
    · exact fits.1
    · rfl
  have close (enabled : Bool) : (view.withLog enabled).flag "close" = view.flag "close" := rfl
  simp only [keys_effectParts, Operation.keys_withLog, labelKeys_withLog, close,
    View.excess?_append, View.excess?_cons, Option.or_eq_none_iff]
  constructor
  · rintro ⟨⟨⟨⟨connection, -⟩, action⟩, bracket⟩, closing⟩
    exact ⟨⟨⟨⟨connection, rfl⟩, action⟩, bracket⟩, closing⟩
  · rintro ⟨⟨⟨⟨connection, -⟩, action⟩, bracket⟩, closing⟩
    exact ⟨⟨⟨⟨connection, asked bracket⟩, action⟩, bracket⟩, closing⟩

/-- With a log a stage looks at what it looks at without one, and at what a report asks for. -/
theorem excess?_withLog (kind : StageKind) : excess? kind (view.withLog true) = none ↔
    excess? kind (view.withLog false) = none ∧ Clear view (reports kind view) := by
  have effect (e : Effect) := excess?_effect_withLog view ⟨view.cid⟩ e
  have nothing : Clear view false := nofun
  cases kind with
  | connection =>
    have driver (enabled : Bool) :
        StrategyKind.keys (view.withLog enabled) = StrategyKind.keys view := rfl
    have mode (enabled : Bool) : Mode.keys (view.withLog enabled) = Mode.keys view := rfl
    simp only [excess?_connection, Option.or_eq_none_iff, View.withLog_excess?, driver, mode,
      excess?_routeKeys_withLog, and_assoc]
  | commit => exact (effect .commit).trans (and_iff_left nothing).symm
  | rollback => exact (effect .rollback).trans (and_iff_left nothing).symm
  | close => exact (effect .close).trans (and_iff_left nothing).symm

end Demands

section Stages

variable {table : Table} {job : Job}

theorem refusal?_withLog (stage : Stage) :
    refusal? table (job.withLog true).settings stage = none ↔
      refusal? table (job.withLog false).settings stage = none ∧
        ∀ kind, table.get? stage.kind = some kind →
          Clear ⟨stage, job.settings⟩ (reports kind ⟨stage, job.settings⟩) := by
  rw [refusal?, refusal?]
  cases table.get? stage.kind with
  | none => simp
  | some kind =>
    simp only [Option.map_eq_none_iff, Option.some.injEq, forall_eq']
    exact excess?_withLog ⟨stage, job.settings⟩ kind

/-- The fragments that stages have with the log on are those they have with it off, annotated. -/
theorem fragments_annotated (stages : List Stage) : List.Forall₂ Fragment.Annotates
    (stages.filterMap (fragment? table (job.withLog false).settings))
    (stages.filterMap (fragment? table (job.withLog true).settings)) := by
  induction stages with
  | nil => exact .nil
  | cons stage rest ih =>
    rw [List.filterMap_cons, List.filterMap_cons, fragment?, fragment?]
    cases table.get? stage.kind with
    | none => exact ih
    | some kind => exact .cons ⟨rfl, rfl, stageCode_annotated kind ⟨stage, job.settings⟩⟩ ih

theorem fragments_silent (stages : List Stage) :
    ∀ fragment ∈ stages.filterMap (fragment? table (job.withLog false).settings),
      ∀ line ∈ fragment.code, line.statement.isReport = false := by
  intro result member
  obtain ⟨stage, -, found⟩ := List.mem_filterMap.mp member
  obtain ⟨kind, -, rfl⟩ := Option.map_eq_some_iff.mp found
  exact stageCode_silent kind ⟨stage, job.settings⟩

end Stages

/-- Whatever is written to an open plan, the log of the job only puts lines in between that report
what happens, and it is in the way only of a report that asks for what cannot be written out. So it
is with the fragments of every job, which report nothing without a log. -/
theorem log_only_annotates (table : Table) (job : Job) :
    (∀ (view : View) (names : Names) (cid component : String) (code : Code) (depth : Nat)
        (scripts : List Script),
      let start : Plan := ⟨cid, component, code, depth, false⟩
      let quiet := Script.runAll (view.withLog false) names start scripts
      let loud := Script.runAll (view.withLog true) names start scripts
      (loud.1 = .ok () ↔ quiet.1 = .ok () ∧ Clear view (Script.anyReports scripts)) ∧
        (loud.1 = .ok () → quiet.2.depth = loud.2.depth ∧
          Annotated names quiet.2.code loud.2.code)) ∧
    ((∃ loud, (generateProgram table (job.withLog true)).1 = .ok loud) ↔
      (∃ quiet, (generateProgram table (job.withLog false)).1 = .ok quiet) ∧
        ∀ stage ∈ job.stages, ∀ kind, table.orStandard.get? stage.kind = some kind →
          Clear ⟨stage, job.settings⟩ (reports kind ⟨stage, job.settings⟩)) ∧
    ∀ quiet, (generateProgram table (job.withLog false)).1 = .ok quiet →
      (∀ fragment ∈ quiet, ∀ line ∈ fragment.code, line.statement.isReport = false) ∧
        ∀ loud, (generateProgram table (job.withLog true)).1 = .ok loud →
          List.Forall₂ Fragment.Annotates quiet loud := by
  refine ⟨?_, ?_⟩
  · intro view names cid component code depth scripts start quiet loud
    have alike : Alike names start start := ⟨rfl, rfl, rfl, .refl code⟩
    have follows := Script.runAll_follow view alike scripts
    exact ⟨follows.ok_iff, fun ended => ⟨(follows.alike ended).depth, (follows.alike ended).code⟩⟩
  · simp only [generateProgram_eq, generateStages_ok_iff]
    refine ⟨?_, ?_⟩
    · simp only [exists_and_left, exists_eq', and_true]
      exact (forall₂_congr fun stage _ => refusal?_withLog stage).trans forall₂_and
    · rintro quiet ⟨-, rfl⟩
      refine ⟨fragments_silent job.stages, ?_⟩
      rintro loud ⟨-, rfl⟩
      exact fragments_annotated job.stages

/-- A job with a stage that reports on a connection by a name with too many digits. -/
def reportingJob : Job where
  name := "j"
  stages := [{
    cid := "c"
    component := "tImpalaConnection"
    params := [(.text "use_existing_connection", .bool true),
      (.text "connection", .int (Nat.pow 10 Excess.mostDigits))] }]

/-- It is generated without a log, and not with one. -/
theorem report_in_the_way :
    (∃ program, (generateProgram .standard (reportingJob.withLog false)).1 = .ok program) ∧
      (generateProgram .standard (reportingJob.withLog true)).1 = .error (.excess .digits) := by
  have quiet : (reportingJob.withLog false).stages.findSome?
      (refusal? .standard (reportingJob.withLog false).settings) = none := by decide +kernel
  have loud : (reportingJob.withLog true).stages.findSome?
      (refusal? .standard (reportingJob.withLog true).settings) =
        some (.excess .digits) := by decide +kernel
  constructor
  · rw [generateProgram_eq, standard_orStandard, generateStages_eq, quiet]
    exact ⟨_, rfl⟩
  · rw [generateProgram_eq, standard_orStandard, generateStages_eq, loud]

end Stagewright.Generation
