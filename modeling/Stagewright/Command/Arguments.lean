/-!
The command line: switches of the tool itself, the name of a command, and the arguments of that
command. A command line that cannot be read is refused as a whole. How much the tool logs can be
switched as well, but does not change what is asked for.
-/

namespace Stagewright.Command

/-- A switch: the ways to write it, and whether a value comes with it. -/
structure Switch where
  long : String
  short : Option Char := none
  valued : Bool := false
deriving DecidableEq, Repr

/-- Switches that were set, with their values, and the words that are none, in their order. -/
structure Parsed where
  set : List (Switch × String) := []
  words : List String := []
deriving DecidableEq, Repr

def Parsed.withSwitch (p : Parsed) (switch : Switch) (value : String) : Parsed :=
  { p with set := (switch, value) :: p.set }

def Parsed.withWord (p : Parsed) (word : String) : Parsed := { p with words := word :: p.words }

/-- Whether an argument sets switches. A lone dash does not. -/
def setsSwitches (arg : String) : Bool := arg.toList.head? = some '-' && arg ≠ "-"

/-- The switches that the letters of an argument set. The letters after a switch with a value are
the value; without any it is the next argument, and the result says so. -/
def letters (switches : List Switch) : List Char → Option (List (Switch × String) × Option Switch)
  | [] => some ([], none)
  | c :: rest => do
    let switch ← switches.find? (·.short = some c)
    if switch.valued then
      if rest.isEmpty then return ([], some switch)
      else return ([(switch, String.ofList rest)], none)
    else
      let (more, pending) ← letters switches rest
      return ((switch, "") :: more, pending)

/-- What an argument sets: switches with their values, and one that waits for its value. -/
def switchesIn (switches : List Switch) (arg : String) :
    Option (List (Switch × String) × Option Switch) :=
  let cs := arg.toList
  let name := cs.takeWhile (· ≠ '=')
  match switches.find? fun s => s.long.toList = name with
  | some switch =>
    match cs.drop name.length, switch.valued with
    | [], true => some ([], some switch)
    | [], false => some ([(switch, "")], none)
    | _ :: value, true => some ([(switch, String.ofList value)], none)
    | _ :: _, false => none
  | none => if cs.take 2 = ['-', '-'] then none else letters switches (cs.drop 1)

/-- Reads arguments, the switches among the words if `mixed`. Two dashes end the switches. The
result holds the latest first. -/
def parseInto (switches : List Switch) (mixed : Bool) (p : Parsed) : List String → Option Parsed
  | [] => some p
  | arg :: rest =>
    if arg = "--" then some (rest.foldl Parsed.withWord p)
    else if setsSwitches arg then do
      let (found, pending) ← switchesIn switches arg
      let p := found.foldl (fun p e => p.withSwitch e.1 e.2) p
      match pending, rest with
      | none, rest => parseInto switches mixed p rest
      | some switch, value :: rest => parseInto switches mixed (p.withSwitch switch value) rest
      | some _, [] => none
    else if mixed then parseInto switches mixed (p.withWord arg) rest
    else some ((arg :: rest).foldl Parsed.withWord p)

def parse (switches : List Switch) (mixed : Bool) (args : List String) : Option Parsed :=
  (parseInto switches mixed {} args).map fun p => ⟨p.set.reverse, p.words.reverse⟩

/-- The values of a switch. -/
def Parsed.values (p : Parsed) (switch : Switch) : List String :=
  (p.set.filter (·.1 = switch)).map (·.2)

def Parsed.isSet (p : Parsed) (switch : Switch) : Bool := p.set.any (·.1 = switch)

namespace Switch

def help : Switch := { long := "--help" }
def version : Switch := { long := "--version" }
def verbose : Switch := { long := "--verbose", short := some 'v' }
def quiet : Switch := { long := "--quiet", short := some 'q' }
def output : Switch := { long := "--output", short := some 'o', valued := true }
def assign : Switch := { long := "--var", valued := true }

end Switch

/-- What is asked for. -/
inductive Action where
  | generate (output : Option String)
  | plan
  | validate
deriving DecidableEq, Repr

structure Invocation where
  action : Action
  jobFile : String
  /-- Assignments of variables, as they are given. -/
  assignments : List String
deriving DecidableEq, Repr

inductive Request where
  | help
  | version
  | run (invocation : Invocation)
deriving DecidableEq, Repr

/-- The switches of a command of the given name. -/
def switchesOf? (name : String) : Option (List Switch) :=
  match name with
  | "generate" => some [.output, .assign, .help]
  | "plan" | "validate" => some [.assign, .help]
  | _ => none

/-- The switches of the tool itself, and the words behind them. -/
def outer? (args : List String) : Option Parsed :=
  parse [.version, .verbose, .quiet, .help] false args

/-- What the switches of the tool itself ask for. The version is shown whatever comes after. -/
def Parsed.request? (outer : Parsed) : Option Request :=
  if outer.isSet Switch.version then some .version
  else if outer.isSet Switch.help then some .help
  else none

/-- What a command line asks for, if it can be read. Words that name no command are read as switches
of the tool once more, even behind two dashes. -/
def Request.ofArguments? (args : List String) : Option Request := do
  let outer ← outer? args
  if let some request := outer.request? then return request
  let name :: args := outer.words | none
  let some switches := switchesOf? name | (← outer? outer.words).request?
  let inner ← parse switches true args
  if inner.isSet Switch.help then return .help
  let [jobFile] := inner.words | none
  let action := match name with
    | "generate" => Action.generate (inner.values Switch.output).getLast?
    | "plan" => .plan
    | _ => .validate
  return .run { action, jobFile, assignments := inner.values Switch.assign }

end Stagewright.Command
