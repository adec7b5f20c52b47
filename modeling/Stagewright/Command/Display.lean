import Stagewright.Command.Problem
import Stagewright.Connection.Mode
import Stagewright.Connection.Strategy
import Stagewright.Console.Table
import Stagewright.Job.Basic
import Stagewright.Text.Symbol
import Stagewright.Validation
import Stagewright.Value.Explained

/-!
What the commands show. Each text is printed on its own, so that those before one that cannot be
printed are seen.
-/

namespace Stagewright.Command

open Connection

/-- Texts that are printed one after the other, none in place of one without a form in bytes. -/
abbrev Display := List (Option String)

/-- A text as it appears on the console, on lines of its own. -/
def printed (text : String) : Option String :=
  (Text.chars? text).map fun cs => Console.shown (String.ofList cs) ++ "\n"

/-- A table as it appears on the console. -/
def tabulated (table : Console.Table) : Option String := do
  let rows ← table.rows.mapM fun row => row.mapM fun cell => (Text.chars? cell).map String.ofList
  return { table with rows }.text

/-- A module has been written to a file. -/
def displayGenerated (job : Job) (output : String) : Display :=
  let table : Console.Table := {
    columns := [{ title := "Property", width := some 12 }, { title := "Value" }]
    rows := [["Job", job.name], ["Stages", toString job.stages.length], ["Output", output]] }
  [printed "✅ Job generated successfully", tabulated table]

/-- How a stage is going to be generated. -/
def planRow (settings : Settings) (position : Nat) (stage : Stage) : List String :=
  let view : View := ⟨stage, settings⟩
  let (acquisition, strategy) :=
    if stage.kind = StageKind.connection.name then
      ((Mode.select view).name, (StrategyKind.select view).name)
    else
      let connection := view.get "connection"
      ("reuse " ++ (if connection.isEmpty then "?" else connection), "-")
  [toString position, stage.cid, stage.kind, stage.family, acquisition, strategy]

/-- What is too much in what is told of a stage. -/
def planExcess? (view : View) : Option Excess :=
  view.excess? <|
    if view.stage.kind = StageKind.connection.name then Mode.keys view ++ StrategyKind.keys view
    else ["connection"]

/-- How the stages of a job are going to be generated. -/
def displayPlan (job : Job) : Display :=
  let state := if job.settings.logEnabled then "enabled" else "disabled"
  let table : Console.Table := {
    columns := [{ title := "#", width := some 3 }, { title := "Stage" }, { title := "Kind" },
      { title := "Component" }, { title := "Acquisition" }, { title := "Strategy" }]
    rows := job.stages.mapIdx fun i stage => planRow job.settings (i + 1) stage }
  [printed ("📋 Job '" ++ job.name ++ "' (structured logging " ++ state ++ ")"), tabulated table]

def displayProblem (problem : Problem) : Display :=
  let advice := match problem.suggestions with
    | [] => []
    | suggestions => "💡 Suggestions:" :: suggestions.map ("   • " ++ ·)
  (("❌ " ++ problem.message) :: advice).map printed

/-- What a validation found. -/
def displayValidation (job : Job) (result : ValidationResult) : Display :=
  let warnings :=
    if result.warnings.isEmpty then []
    else "⚠️  Warnings:" :: result.warnings.map ("  • " ++ ·)
  let verdict :=
    if result.isValid then ["✅ Job '" ++ job.name ++ "' is valid"]
    else
      ("❌ " ++ (Problem.invalidJob job.name result.errors).message) :: "\n📋 Issues found:" ::
        result.errors.mapIdx fun i e => "  " ++ toString (i + 1) ++ ". " ++ e
  (warnings ++ verdict).map printed

/-- An error with the circumstances that explain it. -/
def displayExplained (e : Explained) : Display :=
  let circumstance (entry : String × Value) : String :=
    "   " ++ entry.1 ++ ": " ++ match entry.2 with
      | .list items => ", ".intercalate (items.map Value.spell)
      | v => v.spell
  let context := match e.context with
    | [] => []
    | entries => "📊 Context:" :: entries.map circumstance
  (("❌ " ++ e.message) :: context).map printed

/-- A file could not be written. -/
def displayFault (action : String) (fault : FileFault) : Display :=
  ["❌ Error during " ++ action, "🔍 " ++ fault.message].map printed

end Stagewright.Command
