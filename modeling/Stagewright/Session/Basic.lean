import Stagewright.Code.Local
import Stagewright.Log.Record
import Stagewright.Session.Module

/-!
What the stages of a running job share: drivers by name, connections that are opened once and used
under a name, and what stages publish for one another.
-/

namespace Stagewright.Session

/-- A connection of an imported driver, with what is kept about it beside it. -/
structure Wrapper where
  raw : Raw
  metadata : Metadata
  closed : Bool := false
  /-- The value last asked for, for connections that do not hold it themselves. -/
  autocommit : Value := .null

/-- A connection of a provided driver as it is, or one that is kept in a wrapper. -/
inductive Connection where
  | plain (raw : Raw)
  | wrapped (index : Nat)
deriving DecidableEq, Repr

/-- A message of the pool to the log of the job. -/
structure Report where
  format : String
  args : List String
deriving DecidableEq, Repr

end Stagewright.Session

namespace Stagewright

/-- The state of a running job in a world with states `σ`. -/
structure Session (σ : Type) where
  world : σ
  wrappers : List Session.Wrapper := []
  drivers : Dict String Session.Driver := []
  shared : Dict String Session.Connection := []
  /-- What the pool calls itself in the log of the job, once it has been given one. -/
  label : Option String := none
  published : Dict String (Option Session.Connection) := []
  sources : List String := []
  records : List Log.Record := []
  reports : List Session.Report := []

namespace Session

variable {σ α : Type}

/-- Work in a session. What was done before a fault stays done. -/
abbrev Work (σ : Type) := ExceptT Fault (StateM (Session σ))

/-- Asks the world. -/
def ask (question : σ → Except Refusal α × σ) : Work σ α := do
  let session ← get
  let (answer, world) := question session.world
  set { session with world }
  match answer with
  | .ok a => return a
  | .error reason => throw (.refused reason)

/-- The wrapper of a connection, if it has one. -/
def wrapper? (session : Session σ) : Connection → Option Wrapper
  | .plain _ => none
  | .wrapped i => session.wrappers[i]?

/-- The connection as its driver knows it. -/
def rawOf (session : Session σ) : Connection → Option Raw
  | .plain raw => some raw
  | .wrapped i => session.wrappers[i]?.map (·.raw)

/-- Whether a connection reports that it is closed; none for one that does not say. -/
def closedOf (world : World σ) (session : Session σ) : Connection → Option Bool
  | .plain raw => world.closed session.world raw
  | .wrapped i => session.wrappers[i]?.map (·.closed)

/-- Whose connection it is, as far as it can tell. -/
def metadataOf (world : World σ) (session : Session σ) : Connection → Option Metadata
  | .plain raw => world.metadata session.world raw
  | .wrapped i => session.wrappers[i]?.map (·.metadata)

/-- Changes the wrapper with an index. -/
def updateWrapper (session : Session σ) (i : Nat) (f : Wrapper → Wrapper) : Session σ :=
  { session with wrappers := session.wrappers.modify i f }

/-- The value that a connection in a wrapper reads as: its own where it holds one. -/
def autocommitOf (world : World σ) (session : Session σ) (w : Wrapper) : Value :=
  match world.switch session.world w.raw with
  | .attribute value => value
  | .method | .missing => w.autocommit

/-- Reads whether each statement is committed by itself. -/
def autocommit (world : World σ) : Connection → Work σ Value
  | .plain raw => do
    match world.switch (← get).world raw with
    | .attribute value => return value
    | .method | .missing => throw (.noAttribute "autocommit")
  | .wrapped i => do
    let session ← get
    let some w := session.wrappers[i]? | throw (.noAttribute "autocommit")
    return autocommitOf world session w

/-- Switches whether each statement is committed by itself. The value is noted before the driver is
asked, and it is only noted where the driver offers no switch; the record of that has to be written
out. -/
def setAutocommit (world : World σ) (value : Value) : Connection → Work σ Unit
  | .plain raw => ask (world.perform raw (.assignAutocommit value))
  | .wrapped i => do
    let some w := (← get).wrappers[i]? | throw (.noAttribute "autocommit")
    modify fun session => updateWrapper session i fun w => { w with autocommit := value }
    match world.switch (← get).world w.raw with
    | .method => ask (world.perform w.raw (.callAutocommit value))
    | .attribute _ => ask (world.perform w.raw (.assignAutocommit value))
    | .missing =>
      if let some e := value.excess? then throw (.excess e)
      modify fun session => { session with
        records := session.records ++ [Log.debug .session
          ("Driver connection has no autocommit switch, keeping " ++ value.spell ++ " locally")] }

/-- Does something to a connection that its driver does for it. -/
def perform (world : World σ) (deed : Deed) (connection : Connection) : Work σ Unit := do
  let some raw := (← get).rawOf connection | throw (.noAttribute "raw")
  ask (world.perform raw deed)

def commit (world : World σ) (connection : Connection) : Work σ Unit :=
  perform world .commit connection

def rollback (world : World σ) (connection : Connection) : Work σ Unit :=
  perform world .rollback connection

/-- Closes a connection. One in a wrapper is closed once: after its driver has closed it, nothing
more is asked of the driver. -/
def close (world : World σ) : Connection → Work σ Unit
  | .plain raw => ask (world.perform raw .close)
  | .wrapped i => do
    let some w := (← get).wrappers[i]? | throw (.noAttribute "raw")
    if w.closed then return
    ask (world.perform w.raw .close)
    modify fun session => updateWrapper session i fun w => { w with closed := true }

/-- Runs a statement of a query language. -/
def execute (world : World σ) (sql : String) (connection : Connection) : Work σ String := do
  let some raw := (← get).rawOf connection | throw (.noAttribute "execute")
  ask (world.execute raw sql)

/-- A value that a connection carries under a name. A wrapper has some of its own and stands back
for the others. -/
def field (world : World σ) (name : String) : Connection → Work σ Value
  | .plain raw => do
    let some value := world.field (← get).world raw name | throw (.noAttribute name)
    return value
  | .wrapped i => do
    let session ← get
    let some w := session.wrappers[i]? | throw (.noAttribute name)
    if name = "closed" then return .bool w.closed
    if name = "autocommit" then return autocommitOf world session w
    let some value := world.field session.world w.raw name | throw (.noAttribute name)
    return value

/-- Registers a driver, in place of one that has the same name. -/
def registerDriver (name : String) (driver : Driver) : Work σ Unit :=
  modify fun session => { session with drivers := session.drivers.put name driver }

/-- Work that sees the registered drivers and the world, and nothing else of a session. -/
abbrev Search (σ : Type) := ExceptT Fault (StateM (Dict String Driver × σ))

/-- A search as work in a session. -/
def search (found : Search σ α) : Work σ α := do
  let session ← get
  let (answer, drivers, world) := (ExceptT.run found).run (session.drivers, session.world)
  set { session with drivers, world }
  match answer with
  | .ok a => return a
  | .error fault => throw fault

/-- A way to find a driver by its name. -/
abbrev Loader (σ : Type) := String → Search σ Driver

/-- The driver of the given name. It is imported the first time it is asked for; the empty name
means the standard driver and is never remembered. -/
def findDriver (world : World σ) : Loader σ := fun name => do
  if name.isEmpty then
    match world.standard with
    | some driver => return driver
    | none => throw (.noDriver "" "stage relies on a pre-registered driver")
  let (drivers, state) ← get
  if let some driver := drivers.get? name then return driver
  match importDriver world.modules name with
  | .error fault => throw fault
  | .ok driver =>
    set (drivers.put name driver, state)
    return driver

def loadDriver (world : World σ) (name : String) : Work σ Driver := search (findDriver world name)

/-- Connects through a driver. Connections of imported drivers are put into a wrapper. -/
def connect (world : World σ) (driver : Driver) (login : Login) : Work σ Connection := do
  let raw ← ask (world.connect driver login)
  match driver with
  | .provided _ => return .plain raw
  | .imported _ =>
    let session ← get
    let wrapper : Wrapper := { raw, metadata := ⟨login.user, login.url⟩ }
    set { session with wrappers := session.wrappers ++ [wrapper] }
    return .wrapped session.wrappers.length

/-- Gives the pool a name in the log of the job, or takes its name away. -/
def giveName (label : Option String) : Work σ Unit := modify fun session => { session with label }

/-- Reports to the log of the job, if there is one. -/
def report (message : String) (args : List String) : Work σ Unit :=
  modify fun session =>
    match session.label with
    | none => session
    | some label => { session with
        reports := session.reports ++ [⟨label ++ " - " ++ message, args⟩] }

/-- The connection shared under a name. It is opened unless there is one that does not report to be
closed. -/
def acquire (load : Loader σ) (world : World σ) (driverClass : String) (login : Login)
    (name : String) : Work σ Connection := do
  let session ← get
  match (session.shared.get? name).filter fun c => !(session.closedOf world c).getD false with
  | some connection =>
    report "Reusing the shared connection '%s'." [name]
    return connection
  | none =>
    report "Opening the shared connection '%s'." [name]
    let driver ← search (load driverClass)
    let connection ← connect world driver login
    modify fun session => { session with shared := session.shared.put name connection }
    return connection

/-- The connection shared under a name, with the drivers of the session. -/
def sharedConnection (world : World σ) (driverClass : String) (login : Login) (name : String) :
    Work σ Connection :=
  acquire (findDriver world) world driverClass login name

/-- Closes connections with their names, one after the other, up to the first that refuses. -/
def closeEach (world : World σ) : List (String × Connection) → Work σ Unit
  | [] => return
  | (name, connection) :: rest => do
    modify fun session => { session with
      records := session.records ++
        [Log.debug .session ("Closing shared connection '" ++ name ++ "'")] }
    close world connection
    closeEach world rest

/-- Closes all shared connections and forgets them. -/
def closeAll (world : World σ) : Work σ Unit := do
  closeEach world (← get).shared
  modify fun session => { session with shared := [] }

/-- The names of the shared connections in the order of their code points. -/
def sharedNames (session : Session σ) : List String := session.shared.keys.mergeSort (· ≤ ·)

def driverNames (session : Session σ) : List String := session.drivers.keys.mergeSort (· ≤ ·)

/-- A password in plain text. -/
def decrypt (world : World σ) (encrypted : String) : Work σ String :=
  match world.decrypt with
  | none => throw .noDecryptor
  | some decrypt => ask fun s => (decrypt encrypted, s)

/-- Publishes a connection, or nothing, under a key. -/
def publish (key : String) (connection : Option Connection) : Work σ Unit :=
  modify fun session => { session with published := session.published.put key connection }

/-- The keys under which something is published. -/
def publishedKeys (session : Session σ) : List String := session.published.keys.mergeSort (· ≤ ·)

/-- Makes a source of data known under a name. -/
def addSource (name : String) : Work σ Unit :=
  modify fun session =>
    if session.sources.contains name then session
    else { session with sources := session.sources ++ [name] }

def sourceNames (session : Session σ) : List String := session.sources.mergeSort (· ≤ ·)

/-- The connection that a stage has published. -/
def connectionOf (session : Session σ) (cid : String) : Option Connection :=
  (session.published.get? (Code.Role.conn.key cid)).join

end Session

end Stagewright
