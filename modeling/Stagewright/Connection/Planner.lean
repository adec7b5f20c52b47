import Stagewright.Code.Program
import Stagewright.Connection.Credentials
import Stagewright.Connection.Mode
import Stagewright.Connection.Registration
import Stagewright.Connection.Strategy
import Stagewright.Lifecycle

/-!
The planner of a connection. It walks the steps of the mode one after the other; entering a step
writes its code, and nothing that has been written is taken back, not even where a step breaks off
because there is too much in a parameter that it comes to look at.
-/

namespace Stagewright.Connection

open Code Lifecycle

/-- What a planner works for. -/
structure Request where
  view : View
  names : Names
  strategy : Strategy

namespace Request

variable (request : Request)

def mode : Mode := Mode.select request.view

/-- The connection of the source that is registered under the alias of the stage. -/
def lookupServed : Code :=
  let names := request.names
  let name := request.view.trimmed "datasource_alias"
  ofStatements [.bind names.dataSources .dataSources,
      .bind names.dsAlias (.operand (if name.isEmpty then .emptyText else .given name))] ++
    Code.block (.whenUnserved names.dataSources names.dsAlias)
      (ofStatements [.raiseUnserved names.dsAlias]) ++
    ofStatements [.bind names.conn (.served names.dataSources names.dsAlias)]

/-- The parts in which the connection is got: from the pool, or from its driver. -/
def acquisition : List Part :=
  if request.mode = .shared then
    Operation.parts request.view request.names .shareLog ++
      [{ view := request.strategy.view
         keys := "shared_connection_name" :: request.strategy.classKeys
         code := ofStatements request.strategy.acquireShared }]
  else Operation.parts request.view request.names (.connect request.strategy.connect)

/-- The parts of a step. -/
def parts : State → List Part
  | .init =>
    [{ view := request.view
       code := ofStatements [.bind request.names.conn (.operand .absent),
         .bind request.names.url (.operand .absent)] }]
  | .driverLoaded =>
    { view := request.strategy.view
      keys := request.strategy.classKeys
      code := ofStatements request.strategy.loadClass } ::
      Operation.parts request.view request.names (.note .driverClass)
  | .urlBuilt =>
    [{ view := request.strategy.view
       keys := ["url"]
       code := ofStatements request.strategy.buildUrl?.toList },
      Credentials.part { view := request.view, names := request.names }]
  | .connected =>
    request.acquisition ++ { view := request.view, keys := ["use_existing_connection"] } ::
      if request.view.flag "use_existing_connection" then
        Operation.parts request.view request.names .reuse
      else []
  | .autoCommitSet =>
    let flag := request.view.flag "auto_commit"
    { view := request.view, keys := ["auto_commit"] } ::
      { view := request.strategy.view, keys := request.strategy.autocommitKeys } ::
      match request.strategy.setAutocommit? flag with
      | none => []
      | some setting =>
        { view := request.view, code := ofStatements [.whenPresent request.names.conn] } ::
          (Operation.parts request.view request.names (.autoCommit flag setting)).map (.deeper 1)
  | .registered =>
    (if request.mode = .served then
        [{ view := request.view, keys := ["datasource_alias"], code := request.lookupServed }]
      else []) ++
      [{ view := request.view, code := ofStatements (registration request.names) }]
  | .done => []

/-- The code of a step. -/
def code (state : State) : Code := (request.parts state).flatMap Part.code

end Request

/-- The place that a finished plan goes to. Every planner has one of its own, the first. -/
abbrev Destination := Nat

structure Planner where
  request : Request
  plan : Plan
  /-- The step last taken. -/
  state? : Option State := none
  /-- The steps taken so far. -/
  history : List State := []
  destination : Destination := 0
  /-- What has been handed over, and where to. -/
  deliveries : List (Destination × Fragment) := []
  records : List Log.Record := []

/-- A planner for a request. -/
def Request.planner (request : Request) : Planner where
  request := request
  plan := Plan.start request.view.cid request.view.component

namespace Planner

def route (planner : Planner) : List State := planner.request.mode.route

/-- The fragments at a destination. -/
def delivered (planner : Planner) (destination : Destination) : Program :=
  planner.deliveries.filterMap fun (place, fragment) =>
    if place = destination then some fragment else none

/-- Hands over the plan. -/
def flush (planner : Planner) (destination : Destination) :
    Except GenerationError Unit × Planner :=
  match planner.plan.flush with
  | .error e => (.error (.emission e), planner)
  | .ok plan =>
    (.ok (), { planner with
      plan
      deliveries := planner.deliveries ++ [(destination, plan.fragment)]
      records := planner.records ++ [plan.flushed] })

/-- Appends code to the plan. -/
def emit (planner : Planner) (code : Code) : Except GenerationError Unit × Planner :=
  match planner.plan.emit code with
  | .error e => (.error (.emission e), planner)
  | .ok plan => (.ok (), { planner with plan })

/-- Does the work of a step: the last one hands over the plan, every other one writes its parts. -/
def enter (planner : Planner) (target : State) : Except GenerationError Unit × Planner :=
  if target = .done then planner.flush planner.destination
  else
    let (outcome, plan) := planner.plan.write (planner.request.parts target)
    (outcome, { planner with plan })

/-- Takes a step, which must be the next one. The step counts as taken before its work is done. -/
def advance (planner : Planner) (target : State) : Except GenerationError Unit × Planner :=
  if planner.route[planner.history.length]? = some target then
    enter { planner with state? := some target, history := planner.history ++ [target] } target
  else
    let current := planner.state?.elim "start" State.name
    (.error (.emission
      (.offRoute planner.request.view.cid planner.request.mode.name current target.name)), planner)

/-- Takes steps one after the other, up to the first that cannot be taken. -/
def walk (planner : Planner) : List State → Except GenerationError Unit × Planner
  | [] => (.ok (), planner)
  | target :: rest =>
    match planner.advance target with
    | (.ok (), planner) => planner.walk rest
    | (.error e, planner) => (.error e, planner)

/-- The record of setting out. -/
def planning (planner : Planner) : Log.Record :=
  Log.debug .planner
    ("Planning stage " ++ planner.request.view.cid ++ ": mode=" ++ planner.request.mode.name ++
      ", strategy=" ++ planner.request.strategy.kind.name)

/-- Walks the whole route. A destination that is named stays the one that plans go to. -/
def run (planner : Planner) (destination : Option Destination) :
    Except GenerationError Unit × Planner :=
  walk { planner with
    destination := destination.getD planner.destination
    records := planner.records ++ [planner.planning] } planner.route

end Planner

end Stagewright.Connection
