/-!
Log records of the tool itself: which part speaks, how loud, and what it says.
-/

namespace Stagewright.Log

inductive Level where
  | debug
  | info
  | warning
  | error
deriving DecidableEq, Repr

def Level.name : Level → String
  | .debug => "debug"
  | .info => "info"
  | .warning => "warning"
  | .error => "error"

def Level.severity : Level → Nat
  | .debug => 10
  | .info => 20
  | .warning => 30
  | .error => 40

/-- The parts of the tool that keep a log of their own. -/
inductive Channel where
  | planner
  | generator
  | sink
  | loader
  | substitution
  | validation
  | session
deriving DecidableEq, Repr

def Channel.name : Channel → String
  | .planner => "connforge.codegen.planner"
  | .generator => "connforge.codegen.generator"
  | .sink => "connforge.codegen.sink"
  | .loader => "connforge.config.loader"
  | .substitution => "connforge.config.variables"
  | .validation => "connforge.validation"
  | .session => "connforge.runtime.context"

structure Record where
  level : Level
  channel : Channel
  message : String
deriving DecidableEq, Repr

/-- A record for tracing. -/
def debug (channel : Channel) (message : String) : Record := ⟨.debug, channel, message⟩

end Stagewright.Log
