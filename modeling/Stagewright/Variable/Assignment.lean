import Stagewright.Text.Blank
import Stagewright.Value.Dict

/-!
Assignments of variables given as text, a key and a value around the first equals sign.
-/

namespace Stagewright.Variable

/-- An assignment without an equals sign. -/
structure AssignmentFault where
  source : String
deriving DecidableEq, Repr

def AssignmentFault.message (fault : AssignmentFault) : String :=
  "Invalid variable assignment '" ++ fault.source ++ "', expected KEY=VALUE"

/-- The trimmed key and the untouched value of an assignment. -/
def assignment? (source : String) : Option (String × String) :=
  let cs := source.toList
  match cs.dropWhile (· ≠ '=') with
  | [] => none
  | _ :: value =>
    some (String.ofList (Text.trimChars (cs.takeWhile (· ≠ '='))), String.ofList value)

/-- Reads assignments from left to right; of two for one key the later counts. -/
def assignments : List String → Except AssignmentFault (Dict String String)
  | sources => sources.foldlM (fun d source =>
      match assignment? source with
      | some (key, value) => .ok (d.put key value)
      | none => .error ⟨source⟩) []

/-- The first assignment that cannot be read. -/
def firstInvalid? (sources : List String) : Option String :=
  sources.find? fun source => !source.toList.contains '='

end Stagewright.Variable
