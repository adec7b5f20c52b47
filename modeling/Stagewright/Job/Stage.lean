import Stagewright.Text.Case
import Stagewright.Value.Excess
import Stagewright.Value.Spelling

/-!
Stages of a job: what an editor declared about one step of the pipeline.
-/

namespace Stagewright

inductive StageKind where
  | connection
  | commit
  | rollback
  | close
deriving DecidableEq, Repr

namespace StageKind

def all : List StageKind := [.connection, .commit, .rollback, .close]

def name : StageKind → String
  | .connection => "connection"
  | .commit => "commit"
  | .rollback => "rollback"
  | .close => "close"

/-- The kind with a given name. -/
def ofName? (name : String) : Option StageKind := all.find? fun k => k.name = name

/-- What the editor fills in for parameters that nobody touched. -/
def defaults : StageKind → Mapping
  | .connection => [(.text "use_transaction", .bool true), (.text "auto_commit", .bool false)]
  | .commit => [(.text "close", .bool false)]
  | .rollback => [(.text "close", .bool false)]
  | .close => []

end StageKind

/-- A stage. Parameters are expressions of the generated program, exactly as the editor bound them.
The kind is kept as it is named, since a stage made by hand may name one that nobody knows. -/
structure Stage where
  cid : String
  params : Mapping := []
  encrypted : Dict Scalar String := []
  kind : String := "connection"
  component : String := ""

/-- What keeps a value from being a stage. -/
inductive StageFault where
  | notMapping
  | missingCid
  | badParams (cid : String)
  | badEncrypted (cid : String)
  /-- There is too much of something that would have to be written out. -/
  | unwritable (e : Excess)
deriving DecidableEq, Repr

def StageFault.message : StageFault → String
  | .notMapping => "Stage configuration must be a dictionary"
  | .missingCid => "Stage is missing required 'cid' field"
  | .badParams cid => "Stage '" ++ cid ++ "' params must be a dictionary"
  | .badEncrypted cid => "Stage '" ++ cid ++ "' encrypted must be a dictionary"
  | .unwritable e => e.message?.getD ""

/-- The entries of a value that is a mapping. What counts as not given has none. -/
def Value.entries? (v : Option Value) : Option Mapping :=
  match Value.given? v with
  | none => some []
  | some (.map entries) => some entries
  | some _ => none

namespace Stage

/-- The family a stage belongs to, and its own name where none is given. -/
def family (stage : Stage) : String :=
  if stage.component.isEmpty then stage.cid else stage.component

/-- The defaults for a kind, none for a kind that nobody knows. -/
def defaultsFor (kind : String) : Mapping := (StageKind.ofName? kind).elim [] StageKind.defaults

/-- The stage that an entry of a job describes. -/
def ofValue : Value → Except StageFault Stage
  | .map entries => do
    let some (.text cid) := Value.given? (Mapping.get? entries "cid") | throw .missingCid
    let written (v : Value) : Except StageFault String :=
      match v.excess? with
      | none => .ok v.spell
      | some e => .error (.unwritable e)
    let kind ← match Mapping.get? entries "kind" with
      | some v => Text.lower <$> written v
      | none => pure "connection"
    let some params := Value.entries? (Mapping.get? entries "params") | throw (.badParams cid)
    let some encrypted := Value.entries? (Mapping.get? entries "encrypted")
      | throw (.badEncrypted cid)
    let encrypted ← encrypted.mapM fun e => do return (e.1, ← written e.2)
    let component ← match Value.given? (Mapping.get? entries "component") with
      | some v => written v
      | none => pure ""
    return { cid, params := (defaultsFor kind).update params, encrypted, kind, component }
  | _ => .error .notMapping

end Stage

end Stagewright
