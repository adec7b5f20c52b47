import Stagewright.Connection.Planner
import Stagewright.Job.Basic

/-!
Generating the program of a job. The stages are generated one after the other and never see one
another's code; all they share at run time is the key under which a connection is published.
-/

namespace Stagewright.Generation

open Code Lifecycle Connection

/-- Code, and what was logged while it was written. -/
abbrev Generated (α : Type) := Except GenerationError α × List Log.Record

/-- The parts of a stage that ends the work on a connection. The connection is the one that another
stage has published; without it nothing is done. -/
def effectParts (view : View) (names : Names) (e : Effect) : List Part :=
  let connection := view.trimmed "connection"
  let counter :=
    if e = .commit ∧ dataAction view ≠ "" then
      ofStatements [.bind names.commitCounter (.recordCount (countKey connection))]
    else []
  let closing :=
    if e = .close then []
    else
      { view, keys := ["close"] } ::
        if view.flag "close" then Operation.parts view names (.effect .close) else []
  let body :=
    { view, keys := if e = .commit then ["data_action"] else [], code := counter } ::
      Operation.parts view names (.effect e) ++ closing
  { view, keys := ["connection"], code := ofStatements [lookup names connection] } ::
    Operation.parts view names .reuse ++
    { view, code := ofStatements [.whenPresent names.conn] } :: body.map (.deeper 1)

/-- Generates a stage that ends the work on a connection. -/
def generateEffect (view : View) (e : Effect) : Generated Fragment :=
  match (Plan.start view.cid view.component).write (effectParts view ⟨view.cid⟩ e) with
  | (.error e, _) => (.error e, [])
  | (.ok (), plan) =>
    match plan.flush with
    | .error e => (.error (.emission e), [])
    | .ok closed => (.ok closed.fragment, [closed.flushed])

/-- The request of a stage that makes its own choices. -/
def request (view : View) : Request where
  view := view
  names := ⟨view.cid⟩
  strategy := Strategy.select view ⟨view.cid⟩

/-- The finished plan of a stage that gets a connection. Its choices are made before its planner
sets out. -/
def planConnection (view : View) : Generated Plan :=
  match view.excess? (StrategyKind.keys view ++ Mode.keys view) with
  | some e => (.error (.excess e), [])
  | none =>
    let (outcome, planner) := (request view).planner.run none
    (outcome.map fun _ => planner.plan, planner.records)

/-- Generates a stage that gets a connection. -/
def generateConnection (view : View) : Generated Fragment :=
  let (outcome, records) := planConnection view
  (outcome.map Plan.fragment, records)

/-- Generates a stage by the built-in generator of a kind. -/
def generateView (kind : StageKind) (view : View) : Generated Fragment :=
  match kind with
  | .connection => generateConnection view
  | .commit => generateEffect view .commit
  | .rollback => generateEffect view .rollback
  | .close => generateEffect view .close

/-- Which built-in generator is used for the stages of a kind. -/
abbrev Table := Dict String StageKind

/-- Every kind is generated by its own generator. -/
def Table.standard : Table := StageKind.all.map fun kind => (kind.name, kind)

/-- The table itself, or the standard one where it is empty. -/
def Table.orStandard (table : Table) : Table := if table.isEmpty then .standard else table

/-- The kinds of a table in the order of their code points. -/
def Table.kinds (table : Table) : List String := table.keys.mergeSort (· ≤ ·)

/-- Generates a stage by the generator that the table has for its kind. -/
def generateStage (table : Table) (settings : Settings) (stage : Stage) : Generated Fragment :=
  match table.get? stage.kind with
  | none => (.error (.emission (.unknownKind stage.cid stage.kind table.kinds)), [])
  | some kind => generateView kind ⟨stage, settings⟩

/-- The record of a stage that has been generated. -/
def stageGenerated (stage : Stage) (fragment : Fragment) : Log.Record :=
  Log.debug .generator
    ("Stage " ++ stage.cid ++ " (" ++ stage.kind ++ ") emitted " ++
      toString fragment.code.length ++ " statements")

/-- Generates stages in their order, up to the first that cannot be generated. -/
def generateStages (table : Table) (settings : Settings) : List Stage → Generated Program
  | [] => (.ok [], [])
  | stage :: rest =>
    match generateStage table settings stage with
    | (.error e, records) => (.error e, records)
    | (.ok fragment, records) =>
      let (program, more) := generateStages table settings rest
      (program.map (fragment :: ·), records ++ stageGenerated stage fragment :: more)

/-- The record of a job that has been generated. -/
def jobGenerated (job : Job) (program : Program) : Log.Record :=
  Log.debug .generator
    ("Job '" ++ job.name ++ "' generated " ++ toString program.length ++ " stage fragments")

/-- Generates the stages of a job. -/
def generateProgram (table : Table) (job : Job) : Generated Program :=
  match generateStages table.orStandard job.settings job.stages with
  | (.error e, records) => (.error e, records)
  | (.ok program, records) => (.ok program, records ++ [jobGenerated job program])

/-- Generates the module that runs a job. -/
def generate (table : Table) (job : Job) : Generated String :=
  let (program, records) := generateProgram table job
  (program.map (·.module job.name), records)

/-- The lines of a single stage as one text. -/
def stageText (settings : Settings) (stage : Stage) : Except GenerationError String :=
  (generateStage .standard settings stage).1.map fun fragment =>
    "\n".intercalate (Program.lines [fragment])

end Stagewright.Generation
