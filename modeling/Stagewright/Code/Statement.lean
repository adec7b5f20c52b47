import Stagewright.Code.Local
import Stagewright.Text.Quoted

/-!
Statements of the generated program. Only what comes from the configuration is text; everything
else that a statement binds, reads or does is told by its form.
-/

namespace Stagewright.Code

/-- An expression taken from the configuration as it stands, or what is written where the
configuration leaves one out. -/
inductive Operand where
  | given (source : String)
  | absent
  | emptyText
deriving DecidableEq, Repr

def Operand.text : Operand → String
  | .given source => source
  | .absent => "None"
  | .emptyText => "\"\""

inductive Expr where
  | operand (o : Operand)
  | read (x : Local)
  | zero
  /-- A driver, from the value of its class. -/
  | loadDriver (driverClass : Local)
  /-- A password, from an expression for its encrypted form. -/
  | decrypt (source : String)
  /-- A connection that the job shares under a name. -/
  | pooled (driverClass : Operand) (url user password name : Local)
  | connect (driver url user password : Local)
  | dataSources
  /-- A connection of the source that is registered under an alias. -/
  | served (sources name : Local)
  /-- What is published under a key. -/
  | published (key : String)
  /-- A number of records published under a key, zero when there is none. -/
  | recordCount (key : String)
  | metadataOf (conn : Local)
  | metadataField (metadata : Local) (field : String)
  | successor (x : Local)
  | one
  /-- A result code of a batch, where a negative one counts as zero. -/
  | knownCount (each : Local)
deriving DecidableEq, Repr

namespace Expr

def text : Expr → String
  | .operand o => o.text
  | .read x => x.text
  | .zero => "0"
  | .loadDriver driverClass => "context.load_driver(" ++ driverClass.text ++ ")"
  | .decrypt source => "context.decrypt_password(" ++ source ++ ")"
  | .pooled driverClass url user password name =>
    "context.shared_connections.get_db_connection(" ++ ", ".intercalate
      [driverClass.text, url.text, user.text, password.text, name.text] ++ ")"
  | .connect driver url user password =>
    driver.text ++ ".connect(" ++ ", ".intercalate [url.text, user.text, password.text] ++ ")"
  | .dataSources => "context.data_sources"
  | .served sources name => sources.text ++ "[" ++ name.text ++ "].get_connection()"
  | .published key => "global_map.get(\"" ++ key ++ "\")"
  | .recordCount key => "global_map.get(\"" ++ key ++ "\", 0)"
  | .metadataOf conn => "connection_metadata(" ++ conn.text ++ ")"
  | .metadataField metadata field => metadata.text ++ "." ++ field
  | .successor x => x.text ++ " + 1"
  | .one => "1"
  | .knownCount each => "0 if " ++ each.text ++ " < 0 else " ++ each.text

/-- The variables an expression reads, apart from those that the configuration reads itself. -/
def reads : Expr → List Local
  | .operand _ | .zero | .one | .decrypt _ | .dataSources | .published _ | .recordCount _ => []
  | .read x | .successor x | .knownCount x => [x]
  | .loadDriver driverClass => [driverClass]
  | .pooled _ url user password name => [url, user, password, name]
  | .connect driver url user password => [driver, url, user, password]
  | .served sources name => [sources, name]
  | .metadataOf conn => [conn]
  | .metadataField metadata _ => [metadata]

end Expr

/-- What is done to a connection when work on it ends. -/
inductive Effect where
  | commit
  | rollback
  | close
deriving DecidableEq, Repr

def Effect.name : Effect → String
  | .commit => "commit"
  | .rollback => "rollback"
  | .close => "close"

/-- A truth value of the generated program. -/
def boolText (b : Bool) : String := if b then "True" else "False"

inductive Statement where
  | bind (x : Local) (e : Expr)
  | add (x : Local) (e : Expr)
  | log (level message : String) (args : List Expr)
  | initPoolLog (label : String)
  /-- Opens a block for the case that a variable holds something. -/
  | whenPresent (x : Local)
  /-- Opens a block for the case that no source is registered under an alias. -/
  | whenUnserved (sources name : Local)
  | raiseUnserved (name : Local)
  | setAutocommit (conn : Local) (flag : Bool)
  | publish (key : String) (x : Local)
  /-- A comment that names what could be published and is not. -/
  | withhold (key : String) (x : Local)
  | effect (conn : Local) (e : Effect)
  | executeBatch (stmt : Local)
  /-- Opens a block for each result code of a batch. -/
  | eachCount (each stmt : Local)
  /-- A statement that somebody else wrote. -/
  | verbatim (source : String)
deriving DecidableEq, Repr

namespace Statement

/-- A statement that logs a message with its arguments. -/
def logText (level message : String) (args : List String) : String :=
  "log." ++ level ++ "(" ++ ", ".intercalate (Text.literal message :: args) ++ ")"

def text : Statement → String
  | .bind x e => x.text ++ " = " ++ e.text
  | .add x e => x.text ++ " += " ++ e.text
  | .log level message args => logText level message (args.map Expr.text)
  | .initPoolLog label => "context.shared_connections.init_logger(log, \"" ++ label ++ "\")"
  | .whenPresent x => "if " ++ x.text ++ " is not None:"
  | .whenUnserved sources name => "if " ++ sources.text ++ ".get(" ++ name.text ++ ") is None:"
  | .raiseUnserved name => "raise DataSourceNotFoundError(" ++ name.text ++ ")"
  | .setAutocommit conn flag => conn.text ++ ".autocommit = " ++ boolText flag
  | .publish key x => "global_map[\"" ++ key ++ "\"] = " ++ x.text
  | .withhold key x => "# global_map[\"" ++ key ++ "\"] = " ++ x.text
  | .effect conn e => conn.text ++ "." ++ e.name ++ "()"
  | .executeBatch stmt => stmt.text ++ ".execute_batch()"
  | .eachCount each stmt => "for " ++ each.text ++ " in " ++ stmt.text ++ ".execute_batch():"
  | .verbatim source => source

/-- Statements that a block follows. -/
def isHeader : Statement → Bool
  | .whenPresent _ | .whenUnserved _ _ | .eachCount _ _ => true
  | _ => false

/-- The variable a statement gives a value. -/
def binds? : Statement → Option Local
  | .bind x _ | .eachCount x _ => some x
  | _ => none

/-- The variables a statement reads. -/
def reads : Statement → List Local
  | .bind _ e => e.reads
  | .add x e => x :: e.reads
  | .log _ _ args => args.flatMap Expr.reads
  | .initPoolLog _ | .withhold _ _ | .verbatim _ => []
  | .whenPresent x | .raiseUnserved x | .setAutocommit x _ | .publish _ x | .effect x _
  | .executeBatch x => [x]
  | .eachCount _ stmt => [stmt]
  | .whenUnserved sources name => [sources, name]

end Statement

end Stagewright.Code
