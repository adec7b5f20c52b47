import Stagewright.Code.Line
import Stagewright.Job.View

/-!
The statements of a connection that depend on its driver. A stage either names the driver it wants
or relies on one that is there already.
-/

namespace Stagewright.Connection

open Code

inductive StrategyKind where
  | generic
  | driverSpecified
deriving DecidableEq, Repr

def StrategyKind.name : StrategyKind → String
  | .generic => "generic"
  | .driverSpecified => "driver_specified"

/-- The kind that a stage asks for: a driver is named by its file or its class. -/
def StrategyKind.select (view : View) : StrategyKind :=
  if view.isBlank "driver_jar" && view.isBlank "driver_class" then .generic else .driverSpecified

/-- What decides on the kind: the class of the driver only where its file is not given. -/
def StrategyKind.keys (view : View) : List String :=
  if view.isBlank "driver_jar" then ["driver_jar", "driver_class"] else ["driver_jar"]

structure Strategy where
  kind : StrategyKind
  view : View
  names : Names

namespace Strategy

variable (strategy : Strategy)

/-- The class of the driver. -/
def driverClass : Operand :=
  match strategy.kind with
  | .generic => .emptyText
  | .driverSpecified => .given (strategy.view.get "driver_class")

/-- The class of the driver is looked at only by a strategy that names one. -/
def classKeys : List String :=
  match strategy.kind with
  | .generic => []
  | .driverSpecified => ["driver_class"]

/-- Binds the address. Without a driver of its own a stage may leave the address to the runtime. -/
def buildUrl? : Option Statement :=
  let binding : Statement := .bind strategy.names.url (.operand (.given (strategy.view.get "url")))
  match strategy.kind with
  | .generic => if strategy.view.isBlank "url" then none else some binding
  | .driverSpecified => some binding

/-- Sets whether each statement is committed by itself. A driver that is named keeps its own way
unless the stage uses transactions. -/
def setAutocommit? (flag : Bool) : Option Statement :=
  let setting : Statement := .setAutocommit strategy.names.conn flag
  match strategy.kind with
  | .generic => some setting
  | .driverSpecified => if strategy.view.flag "use_transaction" then some setting else none

/-- Whether transactions are used is looked at only where the driver is named. -/
def autocommitKeys : List String :=
  match strategy.kind with
  | .generic => []
  | .driverSpecified => ["use_transaction"]

def loadClass : List Statement :=
  [.bind strategy.names.driverClass (.operand strategy.driverClass),
    .bind strategy.names.driver (.loadDriver strategy.names.driverClass)]

/-- The name under which the connection is shared. -/
def sharedName : Operand :=
  let name := strategy.view.get "shared_connection_name"
  if name.isEmpty then .emptyText else .given name

def acquireShared : List Statement :=
  let names := strategy.names
  [.bind names.sharedConnectionName (.operand strategy.sharedName),
    .bind names.conn
      (.pooled strategy.driverClass names.url names.dbUser names.dbPwd names.sharedConnectionName)]

def connect : Statement :=
  let names := strategy.names
  .bind names.conn (.connect names.driver names.url names.dbUser names.dbPwd)

/-- The strategy that a stage asks for. -/
def select (view : View) (names : Names) : Strategy := ⟨.select view, view, names⟩

end Strategy

end Stagewright.Connection
