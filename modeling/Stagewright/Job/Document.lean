import Stagewright.Job.Basic
import Stagewright.Text.Identifier
import Stagewright.Value.Explained
import Stagewright.Variable.Substitution

/-!
Jobs as documents: a mapping with the name of the job, its stages, its settings and variables of
its own, which is read once every reference to a variable has been replaced.
-/

namespace Stagewright

/-- Why a document is not a job. Positions count from one. -/
inductive JobFault where
  | missingFile
  | malformed
  | empty
  | notMapping
  | badVariables
  | missingName
  | badStages
  | badStage (position : Nat) (fault : StageFault)
  | unknownKind (kind cid : String)
  | badCid (cid : String)
  | duplicateCid (cid : String)
  | badSettings

/-- A fault and the file it was found in. -/
structure JobError where
  fault : JobFault
  source : Option String

namespace JobError

def stage? (e : JobError) : Option String :=
  match e.fault with
  | .unknownKind _ cid | .badCid cid | .duplicateCid cid => some cid
  | _ => none

def details (e : JobError) : List String :=
  match e.fault with
  | .badStage _ fault => [fault.message]
  | .unknownKind _ _ => ["Known kinds: " ++ ", ".intercalate (StageKind.all.map (·.name))]
  | _ => []

def message (e : JobError) : String :=
  match e.fault with
  | .missingFile => "Job file not found"
  | .malformed => "Job file is not valid YAML"
  | .empty => "Job file is empty"
  | .notMapping => "Job file must contain a mapping at the top level"
  | .badVariables => "'variables' must be a mapping"
  | .missingName => "Job is missing required 'job' name"
  | .badStages => "'stages' must be a list"
  | .badStage position _ => "Invalid stage at position " ++ toString position
  | .unknownKind kind _ => "Unknown stage kind '" ++ kind ++ "'"
  | .badCid _ => "Stage cid must be a valid Python identifier"
  | .duplicateCid _ => "Duplicate stage cid"
  | .badSettings => "'globals' must be a mapping"

/-- A message explained by the file, the stage and the details that are known. -/
def explain (message : String) (source stage : Option String) (details : List String) :
    Explained where
  message := message
  context :=
    ((source.filter (!·.isEmpty)).map fun s => ("file", Value.text s)).toList ++
      ((stage.filter (!·.isEmpty)).map fun s => ("stage", Value.text s)).toList ++
      if details.isEmpty then [] else [("details", .list (details.map Value.text))]

def explained (e : JobError) : Explained := explain e.message e.source e.stage? e.details

end JobError

namespace Job

/-- The last part of a path, without its extension. A dot in front does not begin one. -/
def stem (path : String) : String :=
  let last := (path.toList.reverse.takeWhile (· ≠ '/')).reverse
  let dots := last.takeWhile (· = '.')
  let body := last.dropWhile (· = '.')
  match body.reverse.dropWhile (· ≠ '.') with
  | [] => String.ofList last
  | _ :: kept => String.ofList (dots ++ kept.reverse)

/-- A stage at a position, after stages with the cids `seen`. -/
def checkStage (seen : List String) (position : Nat) (v : Value) : Except JobFault Stage := do
  let stage ← (Stage.ofValue v).mapError (.badStage position)
  if (StageKind.ofName? stage.kind).isNone then throw (.unknownKind stage.kind stage.cid)
  if !Text.isIdentifier stage.cid then throw (.badCid stage.cid)
  if seen.contains stage.cid then throw (.duplicateCid stage.cid)
  return stage

/-- Stages in their order, the first of them at `position`. -/
def checkStages (seen : List String) (position : Nat) : List Value → Except JobFault (List Stage)
  | [] => .ok []
  | v :: vs => do
    let stage ← checkStage seen position v
    let rest ← checkStages (seen ++ [stage.cid]) (position + 1) vs
    return stage :: rest

/-- The name of a job: the one it gives itself, or else that of its file. -/
def nameOf (document : Mapping) (source : Option String) : Except JobFault String :=
  let own := Text.trim (((Value.given? (document.get? "job")).map Value.spell).getD "")
  if !own.isEmpty then .ok own
  else
    match source.filter (!·.isEmpty) with
    | some path => .ok (stem path)
    | none => .error .missingName

/-- The items of a value that is a list. What counts as not given has none. -/
def stageValues (v : Option Value) : Except JobFault (List Value) :=
  match Value.given? v with
  | none => .ok []
  | some (.list items) => .ok items
  | some _ => .error .badStages

/-- The job in a document whose references have been replaced. The settings are looked at last. -/
def ofResolved (document : Mapping) (source : Option String) : Except JobFault Job := do
  let name ← nameOf document source
  let values ← stageValues (document.get? "stages")
  let stages ← checkStages [] 1 values
  let some settings := Value.entries? (document.get? "globals") | throw .badSettings
  return { name, stages, settings := Settings.ofMapping settings, source }

/-- The record of a job that has been read. -/
def loaded (job : Job) : Log.Record :=
  Log.debug .loader
    ("Loaded job '" ++ job.name ++ "' with " ++ toString job.stages.length ++ " stages")

/-- The job in a document. Its variables are not part of the text that is searched for
references. A job without a name has no file to report either. -/
def ofDocument (document overrides environment : Mapping) (source : Option String) :
    Except JobError Job × List Log.Record :=
  match Value.entries? (document.get? "variables") with
  | none => (.error ⟨.badVariables, source⟩, [])
  | some own =>
    let scope := Variable.scopeOf environment own overrides
    let (resolved, records) :=
      Variable.substituteEntries scope (document.erase (.text "variables"))
    match ofResolved resolved source with
    | .ok job => (.ok job, records ++ [job.loaded])
    | .error fault => (.error ⟨fault, source⟩, records)

end Job

end Stagewright
