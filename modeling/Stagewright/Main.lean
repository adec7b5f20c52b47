import Stagewright.Command.Run

/-!
The program: its arguments and the environment come from the system, its files are real ones.
-/

namespace Stagewright.Main

open Command

/-- Why the system refuses to write to a path. -/
def fault (path : String) (e : IO.Error) : FileFault :=
  match e with
  | .noFileOrDirectory .. => .missing path
  | .inappropriateType .. => .directory path
  | .alreadyExists .. => .occupied path
  | .permissionDenied _ code reason | .resourceExhausted _ code reason
  | .invalidArgument _ code reason => ⟨code.toNat, reason, path⟩
  | e => ⟨0, toString e, path⟩

/-- The directory that a path names a file in. -/
def directoryOf (path : String) : String :=
  String.ofList (path.toList.reverse.dropWhile (· ≠ '/')).reverse

/-- A path as the system knows it. -/
def systemPath (path : String) : String := String.ofList ((Text.chars? path).getD [])

def read (path : String) : IO FileContent := do
  try
    return .bytes (← IO.FS.readBinFile (systemPath path)).data.toList
  catch e =>
    match e with
    | .inappropriateType .. => return .directory
    | _ => return .missing

def write (path text : String) : IO (Except WriteFault Unit) := do
  if let some fault := WriteFault.ofPath? path then return .error fault
  let path := systemPath path
  try
    unless (directoryOf path).isEmpty do IO.FS.createDirAll (directoryOf path)
    IO.FS.writeBinFile path (.mk (Text.bytes text).toArray)
    return .ok ()
  catch e => return .error (.refused (fault path e))

/-- The variables of the environment, as the system lists them. -/
def environment : IO Mapping := do
  let content ← try IO.FS.readBinFile "/proc/self/environ" catch _ => pure .empty
  let lines := Text.splitChars '\x00' ((Text.decodeUtf8? content.data.toList).getD [])
  return (lines.filterMap fun line => Variable.assignment? (Text.ofChars line)).map fun e =>
    (Scalar.text e.1, Value.text e.2)

end Stagewright.Main

open Stagewright in
def main (args : List String) : IO UInt32 := do
  let texts := args.map fun arg => Text.ofChars arg.toList
  let (outcome, _) ← Command.run ⟨Main.read, Main.write⟩ .clear (← Main.environment) texts
  IO.print outcome.output
  if outcome.escaped.isSome then IO.eprintln "The job cannot be read or written."
  return outcome.exitCode.toUInt32
