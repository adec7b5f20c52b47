import Stagewright.Job.Document
import Stagewright.Variable.Reach
import Stagewright.Yaml.Document

/-!
Jobs in files. A file holds one YAML document in UTF-8.
-/

namespace Stagewright

/-- What is found at a path. -/
inductive FileContent where
  | missing
  | directory
  | bytes (data : List UInt8)
deriving DecidableEq, Repr

/-- Why a job cannot be loaded. Apart from what is wrong with the job itself, its file may not be
one, it may hold no text, a scalar of its document may denote no value, or there may be too much of
something in it. -/
inductive LoadError where
  | job (e : JobError)
  | directory
  | document (fault : Yaml.Fault)
  | excess (e : Excess)

/-- What a fault of a job comes to. A text of a stage that is nested too deep to be written out is
not told as a fault of the job. -/
def LoadError.ofFault (fault : JobFault) (source : Option String) : LoadError :=
  match fault with
  | .badStage _ (.unwritable .depth) => .excess .depth
  | fault => .job ⟨fault, source⟩

namespace Job

/-- What is too much in a document, if anything is, and what is logged before it is met: while the
references are replaced, or when the name of the job is written out. -/
def excess? (document overrides environment : Mapping) : Option (Excess × List Log.Record) :=
  (Value.entries? (document.get? "variables")).bind fun own =>
    let scope := Variable.scopeOf environment own overrides
    let rest := document.erase (.text "variables")
    let reach := Variable.Reach.ofEntries scope (Excess.mostLevels - 1) rest
    let name := Value.given? (Mapping.get? rest "job")
    match reach.stop with
    | some e => some (e, reach.records)
    | none => (name.bind Value.excess?).map (·, reach.records)

/-- The job in a document, unless there is too much of something in it. -/
def read (document overrides environment : Mapping) (source : Option String) :
    Except LoadError Job × List Log.Record :=
  match excess? document overrides environment with
  | some (e, records) => (.error (.excess e), records)
  | none =>
    let (result, records) := ofDocument document overrides environment source
    (result.mapError fun e => .ofFault e.fault e.source, records)

/-- The values of a document under its keys. The variables are only ever written out, everything
else is walked through. -/
def valuesOf (d : Yaml.Document) (entries : List (Scalar × Yaml.Ref)) : Mapping :=
  let written (ref : Yaml.Ref) : Value := d.written [] [] ref d.writtenFuel
  let own (ref : Yaml.Ref) : Value := match d.object? ref with
    | some (.map entries) => .map (entries.map fun e => (e.1, written e.2))
    | _ => written ref
  entries.map fun e => (e.1, if e.1 == .text "variables" then own e.2 else d.walked e.2)

/-- The mapping in a document. -/
def documentOf (path : String) (data : List UInt8) : Except LoadError Mapping :=
  let fail (fault : JobFault) : Except LoadError Mapping := .error (.job ⟨fault, some path⟩)
  match Yaml.Document.read (.ofBytes data) with
  | .error .malformed | .error .unfinished => fail .malformed
  | .error fault => .error (.document fault)
  | .ok none => fail .empty
  | .ok (some d) =>
    match d.object? d.root with
    | some (.scalar .null) => fail .empty
    | some (.map entries) => .ok (valuesOf d entries)
    | _ => fail .notMapping

/-- The job in a file. -/
def ofFile (path : String) (content : FileContent) (overrides environment : Mapping) :
    Except LoadError Job × List Log.Record :=
  match content with
  | .missing => (.error (.job ⟨.missingFile, some path⟩), [])
  | .directory => (.error .directory, [])
  | .bytes data =>
    match documentOf path data with
    | .error e => (.error e, [])
    | .ok document => read document overrides environment (some path)

end Job

end Stagewright
