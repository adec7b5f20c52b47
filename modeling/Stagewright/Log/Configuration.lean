import Stagewright.Log.Record
import Stagewright.Value.Dict

/-!
What is set up for logging: the level, the handlers and the propagation of the root logger and of
the named ones. A handler is told by the format of its lines.
-/

namespace Stagewright.Log

/-- The format of the tool's own handlers. -/
def standardFormat : String := "%(asctime)s - %(name)s - %(levelname)s - %(message)s"

structure Logger where
  /-- Records below this level are dropped; zero leaves the decision to the root. -/
  level : Nat := 0
  propagates : Bool := true
  handlers : List String := []
deriving DecidableEq, Repr

structure Configuration where
  root : Logger
  loggers : Dict String Logger
deriving DecidableEq, Repr

/-- The channels that speak of every fragment. They stay quiet unless asked for. -/
def technicalChannels : List Channel := [.planner, .generator, .sink, .loader]

/-- How much is to be logged. -/
structure Verbosity where
  verbose : Bool := false
  quiet : Bool := false
deriving DecidableEq, Repr

namespace Logger

/-- A logger with a handler of its own. One that has none yet gets `format`, and keeps its records
to itself from then on. -/
def handled (logger : Logger) (format : String) : Logger :=
  if logger.handlers.isEmpty then { logger with handlers := [format], propagates := false }
  else logger

def detached (logger : Logger) : Logger := { logger with handlers := [], propagates := true }

end Logger

namespace Verbosity

/-- The level of the root. Being quiet wins. -/
def rootLevel (v : Verbosity) : Nat :=
  if v.quiet then Level.warning.severity
  else if v.verbose then Level.debug.severity
  else Level.info.severity

/-- The level of a technical channel. -/
def technicalLevel (v : Verbosity) : Nat :=
  if v.verbose then Level.debug.severity else Level.warning.severity

end Verbosity

namespace Configuration

/-- What is set up from the start. -/
def initial : Configuration where
  root := { level := Level.warning.severity }
  loggers := technicalChannels.map fun channel =>
    (channel.name, ({} : Logger).handled standardFormat)

/-- Names that mean the root logger. -/
def isRoot (name : String) : Bool := name = "" || name = "root"

/-- The logger of a name; one that nobody has used yet is fresh. -/
def logger (c : Configuration) (name : String) : Logger :=
  if isRoot name then c.root else (c.loggers.get? name).getD {}

def set (c : Configuration) (name : String) (logger : Logger) : Configuration :=
  if isRoot name then { c with root := logger } else { c with loggers := c.loggers.put name logger }

/-- Makes sure that the logger of a name has a handler. -/
def acquire (c : Configuration) (name : String) : Configuration :=
  c.set name ((c.logger name).handled standardFormat)

/-- Takes the handlers away from the logger of a name. -/
def detach (c : Configuration) (name : String) : Configuration :=
  c.set name (c.logger name).detached

/-- Gives the root one more handler. -/
def addRootHandler (c : Configuration) (format : String) : Configuration :=
  { c with root := { c.root with handlers := c.root.handlers ++ [format] } }

/-- A technical logger at its level and with a handler. -/
def configureChannel (v : Verbosity) (c : Configuration) (channel : Channel) : Configuration :=
  c.set channel.name
    (Logger.handled { c.logger channel.name with level := v.technicalLevel } standardFormat)

/-- Sets up logging. The root gets one new handler for all it had; technical channels that have a
handler keep it. -/
def configure (c : Configuration) (v : Verbosity) : Configuration :=
  technicalChannels.foldl (configureChannel v)
    { c with root := { c.root with level := v.rootLevel, handlers := [standardFormat] } }

/-- The level that decides about the records of a name. -/
def effectiveLevel (c : Configuration) (name : String) : Nat :=
  let own := (c.logger name).level
  if own = 0 then c.root.level else own

end Configuration

end Stagewright.Log
