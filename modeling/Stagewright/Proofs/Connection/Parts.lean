import Stagewright.Connection.Planner
import Stagewright.Proofs.Lifecycle.Parts

/-!
The parts of a step. Together they make up the code of the step, and look at what the step looks at.
-/

namespace Stagewright.Connection.Request

open Code Lifecycle

variable (request : Request)

/-- What is too much in the first part on the whole route that cannot be written. -/
def excess? : Option Excess := excessOf? (request.mode.route.flatMap request.parts)

theorem code_acquisition : request.acquisition.flatMap Part.code =
    if request.mode = .shared then
      Operation.code request.view request.names .shareLog ++
        ofStatements request.strategy.acquireShared
    else Operation.code request.view request.names (.connect request.strategy.connect) := by
  unfold acquisition
  split <;> simp [Operation.code_parts]

/-- The code of each step. -/
theorem code_eq (state : State) : request.code state =
    match state with
    | .init =>
      ofStatements [.bind request.names.conn (.operand .absent),
        .bind request.names.url (.operand .absent)]
    | .driverLoaded =>
      ofStatements request.strategy.loadClass ++
        Operation.code request.view request.names (.note .driverClass)
    | .urlBuilt =>
      ofStatements (request.strategy.buildUrl?.toList ++
        Credentials.statements { view := request.view, names := request.names })
    | .connected =>
      (if request.mode = .shared then
          Operation.code request.view request.names .shareLog ++
            ofStatements request.strategy.acquireShared
        else Operation.code request.view request.names (.connect request.strategy.connect)) ++
        if request.view.flag "use_existing_connection" then
          Operation.code request.view request.names .reuse
        else []
    | .autoCommitSet =>
      let flag := request.view.flag "auto_commit"
      match request.strategy.setAutocommit? flag with
      | none => []
      | some setting =>
        Code.block (.whenPresent request.names.conn)
          (Operation.code request.view request.names (.autoCommit flag setting))
    | .registered =>
      (if request.mode = .served then request.lookupServed else []) ++
        ofStatements (registration request.names)
    | .done => [] := by
  cases state with
  | init => simp [code, parts]
  | driverLoaded => simp [code, parts, Operation.code_parts]
  | urlBuilt => simp [code, parts, Credentials.part]
  | connected =>
    rw [code, parts, List.flatMap_append, code_acquisition]
    split <;> split <;> simp [Operation.code_parts]
  | autoCommitSet =>
    simp only [code, parts]
    cases request.strategy.setAutocommit? (request.view.flag "auto_commit") with
    | none => rfl
    | some setting => simp [Operation.code_parts, ofStatements, Code.block]
  | registered =>
    rw [code, parts]
    split <;> simp
  | done => rfl

theorem code_done : request.code .done = [] := rfl

end Stagewright.Connection.Request
