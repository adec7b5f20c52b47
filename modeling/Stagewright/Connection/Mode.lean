import Stagewright.Job.View

/-!
How a stage gets its connection, and the steps that takes.
-/

namespace Stagewright.Connection

inductive Mode where
  | shared
  | served
  | direct
deriving DecidableEq, Repr

/-- The steps of getting a connection. -/
inductive State where
  | init
  | driverLoaded
  | urlBuilt
  | connected
  | autoCommitSet
  | registered
  | done
deriving DecidableEq, Repr

namespace State

def all : List State :=
  [.init, .urlBuilt, .driverLoaded, .connected, .autoCommitSet, .registered, .done]

def name : State → String
  | .init => "init"
  | .driverLoaded => "driver_loaded"
  | .urlBuilt => "url_built"
  | .connected => "connected"
  | .autoCommitSet => "auto_commit_set"
  | .registered => "registered"
  | .done => "done"

/-- The step with a given name. -/
def ofName? (name : String) : Option State := all.find? fun s => s.name = name

end State

namespace Mode

def all : List Mode := [.shared, .served, .direct]

def name : Mode → String
  | .shared => "shared"
  | .served => "alias"
  | .direct => "direct"

/-- The steps of a mode in their order. A served connection is made elsewhere: no driver is loaded
for it and no address built, and it is published as soon as it has been looked up. -/
def route : Mode → List State
  | .direct =>
    [.init, .driverLoaded, .urlBuilt, .connected, .autoCommitSet, .registered, .done]
  | .shared => [.init, .urlBuilt, .connected, .autoCommitSet, .registered, .done]
  | .served => [.init, .registered, .autoCommitSet, .done]

/-- The mode a stage asks for. Sharing wins over an alias. -/
def select (view : View) : Mode :=
  if view.flag "use_shared_connection" then .shared
  else if view.flag "specify_datasource_alias" then .served
  else .direct

/-- What decides on the mode. -/
def keys (view : View) : List String :=
  if view.flag "use_shared_connection" then ["use_shared_connection"]
  else ["use_shared_connection", "specify_datasource_alias"]

end Mode

end Stagewright.Connection
