import Stagewright.Job.Settings
import Stagewright.Job.Stage

/-!
A stage as the code generator sees it: parameters by name, read as text or as a switch. A parameter
that is missing reads as empty text or as off. One that is looked at has to be written out, whatever
becomes of its text; the others may hold anything.
-/

namespace Stagewright

structure View where
  stage : Stage
  settings : Settings := {}

namespace View

def cid (view : View) : String := view.stage.cid

def component (view : View) : String := view.stage.family

def logEnabled (view : View) : Bool := view.settings.logEnabled

/-- A parameter as text. -/
def get (view : View) (key : String) : String :=
  match view.stage.params.get? key with
  | none | some .null => ""
  | some (.bool b) => if b then "true" else "false"
  | some v => v.spell

/-- A parameter as text without the white space around it. -/
def trimmed (view : View) (key : String) : String := Text.trim (view.get key)

/-- Whether a parameter is on: true itself, or text that says so. -/
def flag (view : View) (key : String) : Bool :=
  match view.stage.params.get? key with
  | some (.bool b) => b
  | _ => Text.lower (view.trimmed key) = "true"

/-- Whether a parameter holds nothing but white space. -/
def isBlank (view : View) (key : String) : Bool := Text.isBlankText (view.get key)

/-- Whether a parameter is stored in encrypted form. -/
def isEncrypted (view : View) (key : String) : Bool := view.stage.encrypted.contains (.text key)

/-- The encrypted form of a parameter. -/
def encryptedText (view : View) (key : String) : String :=
  (view.stage.encrypted.get? (.text key)).getD ""

def contains (view : View) (key : String) : Bool := view.stage.params.contains (.text key)

/-- What is met first of all that is too much in parameters that are looked at one after the
other. -/
def excess? (view : View) (keys : List String) : Option Excess :=
  keys.findSome? fun key => (view.stage.params.get? key).bind Value.excess?

end View

end Stagewright
