import Stagewright.Text.Quoted

/-!
What goes wrong when a command runs: with what it is asked for, and with the files it writes.
-/

namespace Stagewright.Command

/-- What can be wrong with what is asked on the command line. -/
inductive Problem where
  | noJobFile (path : String)
  | invalidJob (name : String) (errors : List String)
  | badVariable (assignment : String)
deriving DecidableEq, Repr

namespace Problem

def message : Problem → String
  | .noJobFile path => "Job file '" ++ path ++ "' not found"
  | .invalidJob name _ => "Job '" ++ name ++ "' validation failed"
  | .badVariable assignment => "Invalid variable '" ++ assignment ++ "'"

/-- What to do about it. -/
def suggestions : Problem → List String
  | .noJobFile _ => ["Pass the path to a YAML job definition, e.g. jobs/load_orders.yml"]
  | .invalidJob _ _ => []
  | .badVariable _ => ["Use --var KEY=VALUE, for example --var db_host=localhost"]

end Problem

/-- Why a file cannot be written: the number that the system gives the reason, its words for it, and
the path. -/
structure FileFault where
  number : Nat
  reason : String
  path : String
deriving DecidableEq, Repr

namespace FileFault

def missing (path : String) : FileFault := ⟨2, "No such file or directory", path⟩

def occupied (path : String) : FileFault := ⟨17, "File exists", path⟩

def belowFile (path : String) : FileFault := ⟨20, "Not a directory", path⟩

def directory (path : String) : FileFault := ⟨21, "Is a directory", path⟩

def tooLong (path : String) : FileFault := ⟨36, "File name too long", path⟩

def message (fault : FileFault) : String :=
  "[Errno " ++ toString fault.number ++ "] " ++ fault.reason ++ ": " ++ Text.literal fault.path

end FileFault

/-- Why nothing is written: the system refuses, or the path cannot even be put to it. -/
inductive WriteFault where
  | refused (fault : FileFault)
  | zeroInPath
  | unencodable
deriving DecidableEq, Repr

/-- Why a path, or a part of one, cannot even be put to the system. A half of a pair can stand for
a byte that is no text, if it is one of the upper half of all bytes. -/
def WriteFault.ofPath? (path : String) : Option WriteFault :=
  let isLost (s : Text.Symbol) : Bool :=
    s.char?.isNone && !(0xdc80 ≤ s.number && s.number ≤ 0xdcff)
  if (Text.symbols path.toList).any isLost then some .unencodable
  else if path.toList.contains '\x00' then some .zeroInPath
  else none

end Stagewright.Command
