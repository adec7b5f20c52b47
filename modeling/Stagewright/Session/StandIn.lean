import Stagewright.Session.Basic

/-!
A world of stand-ins: drivers that open connections to nowhere and note what they are asked. A job
can be rehearsed in it.
-/

namespace Stagewright.Session.StandIn

/-- How a driver and its connections behave. -/
structure Manner where
  /-- Refuses to connect. -/
  unreachable : Bool := false
  /-- Its connections refuse to commit, to roll back and to close. -/
  failing : Bool := false
  /-- Its connections tell whose they are and whether they are closed. -/
  telling : Bool := false
  /-- Its connections are switched by a method. -/
  method : Bool := false
  /-- Its connections hold the value they are switched to. -/
  holding : Bool := false
deriving DecidableEq, Repr

structure Conn where
  name : String
  manner : Manner
  metadata : Metadata
  closed : Bool := false
  autocommit : Option Value

/-- What a stand-in was asked. -/
inductive Asked where
  | connect (label : String) (driver : Driver) (login : Login)
  | perform (conn : String) (deed : Deed)
  | execute (conn sql : String)

structure State where
  /-- The provided drivers, with their labels. -/
  provided : List (String × Manner) := []
  conns : List Conn := []
  asked : List Asked := []

def State.note (s : State) (asked : Asked) : State := { s with asked := s.asked ++ [asked] }

def State.update (s : State) (raw : Raw) (f : Conn → Conn) : State :=
  { s with conns := s.conns.modify raw f }

/-- Opens a connection, which is named for its driver and numbered among all connections. -/
def connect (modules : Dict String Manner) (driver : Driver) (login : Login) (s : State) :
    Except Refusal Raw × State :=
  let (label, manner) := match driver with
    | .provided i => s.provided[i]?.getD ("", {})
    | .imported module => (module, (modules.get? module).getD {})
  let s := s.note (.connect label driver login)
  if manner.unreachable then (.error "connect refused", s)
  else
    let conn : Conn := {
      name := label ++ "#" ++ toString (s.conns.length + 1)
      manner
      metadata := ⟨login.user, login.url⟩
      autocommit := if manner.holding then some .null else none }
    (.ok s.conns.length, { s with conns := s.conns ++ [conn] })

/-- Ends work on a connection, unless it is one that fails. -/
def finish (raw : Raw) (conn : Conn) (deed : Deed) (name : String) (f : Conn → Conn) (s : State) :
    Except Refusal Unit × State :=
  if conn.manner.failing then (.error (name ++ " failed"), s)
  else (.ok (), (s.note (.perform conn.name deed)).update raw f)

def perform (raw : Raw) (deed : Deed) (s : State) : Except Refusal Unit × State :=
  match s.conns[raw]? with
  | none => (.ok (), s)
  | some conn =>
    match deed with
    | .commit => finish raw conn deed "commit" id s
    | .rollback => finish raw conn deed "rollback" id s
    | .close => finish raw conn deed "close" (fun c => { c with closed := true }) s
    | .assignAutocommit v => (.ok (), s.update raw fun c => { c with autocommit := some v })
    | .callAutocommit _ => (.ok (), s.note (.perform conn.name deed))

def execute (raw : Raw) (sql : String) (s : State) : Except Refusal String × State :=
  match s.conns[raw]? with
  | none => (.ok "", s)
  | some conn => (.ok ("result:" ++ sql), s.note (.execute conn.name sql))

def switch (s : State) (raw : Raw) : Switch :=
  match s.conns[raw]? with
  | none => .missing
  | some conn =>
    if conn.manner.method then .method
    else conn.autocommit.elim .missing .attribute

/-- The connection, if it is one that tells about itself. -/
def telling? (s : State) (raw : Raw) : Option Conn := s.conns[raw]?.filter (·.manner.telling)

def field (s : State) (raw : Raw) (name : String) : Option Value :=
  if name = "name" then s.conns[raw]?.map fun c => .text c.name
  else if name = "closed" then (telling? s raw).map fun c => .bool c.closed
  else if name = "autocommit" then s.conns[raw]?.bind (·.autocommit)
  else none

/-- The world of stand-ins with the given modules. -/
def world (modules : Dict String Manner) (standard : Option Driver)
    (decrypt : Option (String → Except Refusal String)) : World State where
  modules := modules.keys
  standard := standard
  decrypt := decrypt
  connect := connect modules
  perform := perform
  execute := execute
  switch := switch
  closed := fun s raw => (telling? s raw).map (·.closed)
  metadata := fun s raw => (telling? s raw).map (·.metadata)
  field := field

/-- Provides one more driver, under a name of the job and a label of its own. -/
def provide (name label : String) (manner : Manner) : Work State Unit := do
  let provided := (← get).world.provided
  modify fun session =>
    { session with world := { session.world with provided := provided ++ [(label, manner)] } }
  registerDriver name (.provided provided.length)

/-- The name of a connection. -/
def nameOf (session : Session State) (connection : Connection) : Option String := do
  let raw ← session.rawOf connection
  let conn ← session.world.conns[raw]?
  return conn.name

end Stagewright.Session.StandIn
