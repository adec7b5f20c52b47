import Stagewright.Command.Arguments
import Stagewright.Command.Display
import Stagewright.Console.Plain
import Stagewright.Generation
import Stagewright.Job.File
import Stagewright.Variable.Assignment

/-!
Running a command. Files are reached through the operations given, so that the same command runs
on real files and on a tree of files in memory.
-/

namespace Stagewright.Command

structure Files (m : Type → Type) where
  /-- What is found at a path. -/
  read : String → m FileContent
  /-- Writes text to a path, and makes the directories above it first. -/
  write : String → String → m (Except WriteFault Unit)

/-- An error that nobody explains. -/
inductive Escape where
  | load (e : LoadError)
  /-- There is too much of something in a job that has been loaded. -/
  | excess (e : Excess)
  /-- A text has no form in bytes. -/
  | unencodable
  /-- A path with a character that no path can hold. -/
  | zeroInPath

/-- What a command comes to, before anything is printed. -/
inductive Reply where
  /-- A text that is put out directly. -/
  | echo (text : String)
  | display (exitCode : Nat) (shown : Display)
  /-- The command line cannot be read. -/
  | usage
  | escape (e : Escape)

/-- What a run leaves behind: the exit code, the characters printed, and an error that nobody has
explained. -/
structure Outcome where
  exitCode : Nat
  output : String := ""
  escaped : Option Escape := none

/-- The console that displays are printed on. A text that cannot be printed stays in front of all
that come after it, so that none of them is printed either. -/
inductive Screen where
  | clear
  | stuck
deriving DecidableEq, Repr

/-- Prints a display up to the first text that cannot be printed. -/
def Screen.print : Screen → Display → String × Screen
  | screen, [] => ("", screen)
  | .clear, some text :: rest =>
    let (more, after) := Screen.print .clear rest
    (text ++ more, after)
  | _, _ :: _ => ("", .stuck)

/-- Prints what a command comes to. -/
def Reply.outcome (screen : Screen) : Reply → Outcome × Screen
  | .echo text =>
    match Text.chars? text with
    | some cs => ({ exitCode := 0, output := Console.plain (String.ofList cs) }, screen)
    | none => ({ exitCode := 1, escaped := some .unencodable }, screen)
  | .display exitCode shown =>
    match screen.print shown with
    | (output, .clear) => ({ exitCode, output }, .clear)
    | (output, .stuck) => ({ exitCode := 1, output, escaped := some .unencodable }, .stuck)
  | .usage => ({ exitCode := 2 }, screen)
  | .escape e => ({ exitCode := 1, escaped := some e }, screen)

/-- Loads the job of a command. Errors in it are explained, the others escape. -/
def loadJob (content : FileContent) (environment : Mapping) (invocation : Invocation) :
    Except Reply Job :=
  match content with
  | .missing => .error (.display 1 (displayProblem (.noJobFile invocation.jobFile)))
  | content =>
    match Variable.assignments invocation.assignments with
    | .error _ =>
      let bad := (Variable.firstInvalid? invocation.assignments).getD ""
      .error (.display 1 (displayProblem (.badVariable bad)))
    | .ok assigned =>
      let overrides := assigned.map fun e => (Scalar.text e.1, Value.text e.2)
      match (Job.ofFile invocation.jobFile content overrides environment).1 with
      | .ok job => .ok job
      | .error (.job e) => .error (.display 1 (displayExplained e.explained))
      | .error e => .error (.escape (.load e))

variable {m : Type → Type} [Monad m]

/-- Generates a job, and prints its module or writes it to a file. A module that has no form in
bytes leaves an empty file. -/
def generate (files : Files m) (job : Job) (output : Option String) : m Reply :=
  match (Generation.generate .standard job).1 with
  | .error (.excess e) => return .escape (.excess e)
  | .error (.emission e) => return .display 1 (displayExplained e.explained)
  | .ok code =>
    match output with
    | none => return .echo code
    | some path => do
      match ← files.write path (if Text.isEncodable code then code else "") with
      | .error (.refused fault) =>
        return .display 1 (displayFault "writing generated module" fault)
      | .error .zeroInPath => return .escape .zeroInPath
      | .error .unencodable => return .escape .unencodable
      | .ok () =>
        if Text.isEncodable code then return .display 0 (displayGenerated job path)
        else return .escape .unencodable

/-- Shows how a job is going to be generated, if what is told of its stages can be written out. -/
def plan (job : Job) : Reply :=
  match job.stages.findSome? fun stage => planExcess? ⟨stage, job.settings⟩ with
  | some e => .escape (.excess e)
  | none => .display 0 (displayPlan job)

def validate (job : Job) : Reply :=
  match Validation.validate job with
  | .error e => .escape (.excess e)
  | .ok (result, _) =>
    let shown := displayValidation job result
    .display (if result.isValid then 0 else 1) shown

/-- What the command line asks for comes to. -/
def reply (files : Files m) (environment : Mapping) (args : List String) : m Reply := do
  match Request.ofArguments? args with
  | none => return .usage
  | some .help => return .echo ""
  | some .version => return .echo "connforge v0.1.0\n"
  | some (.run invocation) =>
    match loadJob (← files.read invocation.jobFile) environment invocation with
    | .error reply => return reply
    | .ok job =>
      match invocation.action with
      | .generate output => generate files job output
      | .plan => return plan job
      | .validate => return validate job

/-- Runs what the command line asks for, on a console as an earlier run has left it. -/
def run (files : Files m) (screen : Screen) (environment : Mapping) (args : List String) :
    m (Outcome × Screen) := do
  return (← reply files environment args).outcome screen

end Stagewright.Command
