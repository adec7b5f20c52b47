import Stagewright.Demand
import Stagewright.Text.Search

/-!
The life of a connection in the generated program, with the messages that accompany it. Messages
are written only when the job keeps a log; what they accompany is written in any case. Values known
only when the program runs are passed to the log as expressions.
-/

namespace Stagewright.Lifecycle

open Code

/-- A family's name in small letters, without what joins its words. -/
def familyName (component : String) : List Char :=
  (Text.lower component).toList.filter fun c => c ≠ '_' && c ≠ '-'

/-- Families whose connections cannot tell who they belong to. -/
def metadataLessFamilies : List String := ["impala", "hive"]

/-- Families that do not tell how many rows a batch has inserted. -/
def bulkInsertFamilies : List String := ["mysqloutput"]

/-- Whether connections of a component carry no metadata. A letter t in front of the family makes
no difference. -/
def isMetadataLess (component : String) : Bool :=
  let begins (name : List Char) : Bool :=
    metadataLessFamilies.any fun family => family.toList.isPrefixOf name
  match familyName component with
  | 't' :: name => begins name || begins ('t' :: name)
  | name => begins name

/-- What a stage does to its records. -/
def dataAction (view : View) : String := view.trimmed "data_action"

/-- Whether a stage inserts batches of rows that its family does not count. -/
def isBulkInsert (view : View) : Bool :=
  dataAction view = "INSERT" &&
    bulkInsertFamilies.any fun family => Text.occursIn family.toList (familyName view.component)

/-- The connection a stage says it uses, in quotes and with a space after it. -/
def connectionLabel (view : View) : String :=
  let reuse := Text.lower (view.trimmed "use_existing_connection")
  let connection := view.trimmed "connection"
  if (reuse = "" ∨ reuse = "true") ∧ connection ≠ "" then "'" ++ connection ++ "' " else ""

/-- What the label looks at: the connection only where its use is not ruled out. -/
def labelKeys (view : View) : List String :=
  let reuse := Text.lower (view.trimmed "use_existing_connection")
  if reuse = "" ∨ reuse = "true" then ["use_existing_connection", "connection"]
  else ["use_existing_connection"]

/-- Whether batches are worth a message: they are used, and their size is neither blank nor zero. -/
def logsBatch (view : View) : Bool :=
  let size := view.trimmed "batch_size"
  view.flag "use_batch_size" && size ≠ "" && size ≠ "0"

/-- Messages about one thing that happens when the program runs. -/
inductive Note where
  | driverClass
  | connecting (withUser : Bool)
  | connected
  | query
  | retrieving
  | retrieved
  /-- The count of retrieved records is the one that the stage has published. -/
  | retrievedPublished
  | written
  | processed
  /-- The counter already includes the record, or does not yet. -/
  | retrievingRecord (counted : Bool)
  | writingRecord
  | processingRecord
deriving DecidableEq, Repr

namespace Note

def message : Note → String
  | .driverClass => "Driver ClassName: %s."
  | .connecting true => "Connection attempt to '%s' with the username '%s'."
  | .connecting false => "Connection attempt to '%s'."
  | .connected => "Connection to '%s' has succeeded."
  | .query => "Executing the query: '%s'."
  | .retrieving => "Retrieving records from the datasource."
  | .retrieved | .retrievedPublished => "Retrieved records count: %s ."
  | .written => "Written records count: %s ."
  | .processed => "Processed records count: %s ."
  | .retrievingRecord _ => "Retrieving the record %s."
  | .writingRecord => "Writing the record %s to the file."
  | .processingRecord => "Processing the record %s."

/-- The query of a stage on one line. -/
def queryOperand (view : View) : Operand :=
  let query := (view.get "query").map fun c => if c = '\n' ∨ c = '\r' then ' ' else c
  if query.isEmpty then .emptyText else .given query

/-- What fills the gaps of the message. -/
def arguments (view : View) (names : Names) : Note → List Expr
  | .driverClass => [.read names.driverClass]
  | .connecting true => [.read names.url, .read names.dbUser]
  | .connecting false | .connected => [.read names.url]
  | .query => [.operand (queryOperand view)]
  | .retrieving => []
  | .retrievedPublished => [.published (countKey view.cid)]
  | .retrievingRecord false => [.successor names.nbLine]
  | .retrieved | .written | .processed | .retrievingRecord true | .writingRecord
  | .processingRecord => [.read names.nbLine]

end Note

/-- What becomes of the results of a batch. -/
inductive BatchMode where
  | fireAndForget
  | counted
deriving DecidableEq, Repr

/-- What a stage can have written about its connection. -/
inductive Operation where
  | log (level message : String) (args : List Expr)
  | note (n : Note)
  /-- A statement that connects, between the messages of the attempt and of its success. -/
  | connect (statement : Statement)
  /-- Has the pool of shared connections report to the log of the job. -/
  | shareLog
  /-- Tells whose connection it is that an earlier stage has handed over. -/
  | reuse
  | autoCommit (flag : Bool) (statement : Statement)
  | effect (e : Effect)
  | executeBatch (mode : BatchMode)
deriving DecidableEq, Repr

/-- A message of a stage. Without a log there is none. -/
def message (view : View) (level text : String) (args : List Expr) : Code :=
  if view.logEnabled then ofStatements [.log level (view.cid ++ " - " ++ text) args] else []

def debug (view : View) (text : String) (args : List Expr) : Code := message view "debug" text args

/-- The messages before and after an effect. -/
structure Bracket where
  opening : String
  openingArgs : List Expr := []
  closing : String
deriving DecidableEq, Repr

/-- Code between the messages of a bracket. -/
def Bracket.around (bracket : Bracket) (view : View) (body : Code) : Code :=
  debug view bracket.opening bracket.openingArgs ++ body ++ debug view bracket.closing []

/-- The messages around what ends the work on a connection. A commit of records tells how many. -/
def effectBracket (view : View) (names : Names) (e : Effect) : Bracket :=
  let connection := connectionLabel view
  match e with
  | .commit =>
    let closing := "Connection " ++ connection ++ "commit has succeeded."
    if dataAction view ≠ "" then
      ⟨"Connection " ++ connection ++ "starting to commit %s records.",
        [.read names.commitCounter], closing⟩
    else ⟨"Connection " ++ connection ++ "starting to commit.", [], closing⟩
  | .rollback =>
    ⟨"Connection " ++ connection ++ "starting to rollback.", [],
      "Connection " ++ connection ++ "rollback has succeeded."⟩
  | .close =>
    ⟨"Closing the connection " ++ connection ++ "to the database.", [],
      "Connection " ++ connection ++ "to the database closed."⟩

/-- Tells the user and the address of a connection, where there is one and it can tell. -/
def reuseCode (view : View) (names : Names) : Code :=
  let report :=
    if isMetadataLess view.component then
      debug view ("Uses an existing connection " ++ connectionLabel view ++ ".") []
    else
      debug view "Uses an existing connection with username '%s'. Connection URL: %s."
        [.metadataField names.metadata "user_name", .metadataField names.metadata "url"]
  Code.block (.whenPresent names.conn) <|
    ofStatements [.bind names.metadata (.metadataOf names.conn)] ++
      Code.block (.whenPresent names.metadata) report

/-- Runs a batch. Counting sums up its result codes, of which the negative ones count as zero; rows
inserted in bulk count one for each statement. -/
def batchCode (view : View) (names : Names) : BatchMode → Code
  | .fireAndForget => ofStatements [.executeBatch names.stmt]
  | .counted =>
    ofStatements [.bind names.countSum .zero] ++
      Code.block (.eachCount names.countEach names.stmt)
        (ofStatements [.add names.countSum
          (if isBulkInsert view then .one else .knownCount names.countEach)])

/-- The code of an operation. -/
def Operation.code (view : View) (names : Names) : Operation → Code
  | .log level text args => message view level text args
  | .note n => debug view n.message (n.arguments view names)
  | .connect statement =>
    let attempt : Note := .connecting (!view.isBlank "user")
    debug view attempt.message (attempt.arguments view names) ++ ofStatements [statement] ++
      debug view Note.connected.message (Note.connected.arguments view names)
  | .shareLog => if view.logEnabled then ofStatements [.initPoolLog view.cid] else []
  | .reuse => if view.logEnabled then reuseCode view names else []
  | .autoCommit flag statement =>
    debug view ("Connection is set auto commit to '" ++ boolText flag ++ "'.") [] ++
      ofStatements [statement]
  | .effect e => (effectBracket view names e).around view (ofStatements [.effect names.conn e])
  | .executeBatch mode =>
    let action := dataAction view
    if logsBatch view then
      Bracket.around ⟨"Executing the " ++ action ++ " batch.", [],
        "The " ++ action ++ " batch execution has succeeded."⟩ view (batchCode view names mode)
    else batchCode view names mode

namespace Operation

/-- What an operation looks at before it writes. -/
def keys (view : View) : Operation → List String
  | .note .query => ["query"]
  | .connect _ => ["user"]
  | .effect .commit => labelKeys view ++ ["data_action"]
  | .effect _ => labelKeys view
  | .executeBatch _ => ["data_action", "batch_size", "use_batch_size"]
  | .log .. | .note _ | .shareLog | .reuse | .autoCommit .. => []

/-- The parts of an operation. A report on a connection that cannot tell whose it is asks for the
label inside its blocks. -/
def parts (view : View) (names : Names) (operation : Operation) : List Part :=
  let code := operation.code view names
  match operation with
  | .reuse =>
    let asked := if view.logEnabled && isMetadataLess view.component then labelKeys view else []
    [{ view, code := code.take 3 }, { view, keys := asked, code := code.drop 3 }]
  | operation => [{ view, keys := operation.keys view, code }]

end Operation

end Stagewright.Lifecycle
