import Stagewright.Session.World
import Stagewright.Text.Lines
import Stagewright.Text.Quoted

/-!
Finding a module by its dotted name. Modules have no parts of their own here, so a name with a dot
is never found; what is reported is the first part that is missing.
-/

namespace Stagewright.Session

/-- The complaint about a name none of whose first part is known, or which asks for a part of a
module that has none. -/
def missingModule (modules : List String) (parts : List String) : String :=
  match parts with
  | top :: next :: _ =>
    if modules.contains top then
      "No module named " ++ Text.literal (top ++ "." ++ next) ++ "; " ++ Text.literal top ++
        " is not a package"
    else "No module named " ++ Text.literal top
  | _ => "No module named " ++ Text.literal ("".intercalate parts)

/-- The driver in the module of the given name. -/
def importDriver (modules : List String) (name : String) : Except Fault Driver :=
  if name.isEmpty then .error .emptyModuleName
  else if name.toList.head? = some '.' then .error .relativeModuleName
  else if modules.contains name then .ok (.imported name)
  else
    let parts := (Text.splitChars '.' name.toList).map String.ofList
    .error (.noDriver name (missingModule modules parts))

end Stagewright.Session
