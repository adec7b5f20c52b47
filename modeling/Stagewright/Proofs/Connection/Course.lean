import Stagewright.Proofs.Code.Growth
import Stagewright.Proofs.Connection.Walk

/-!
Planners that are told to do things in any order, also what they have to refuse and what they cannot
finish. Whatever they are told, they stay on their route, and their plan is handed over once, as it
is when it is closed.
-/

namespace Stagewright.Connection

open Code

namespace Planner

/-- What a planner can be told to do. -/
inductive Action where
  | advance (target : State)
  | run (destination : Option Destination)
  | flush (destination : Destination)
  | emit (code : Code)

def act (planner : Planner) : Action → Except GenerationError Unit × Planner
  | .advance target => planner.advance target
  | .run destination => planner.run destination
  | .flush destination => planner.flush destination
  | .emit code => planner.emit code

/-- The planner after it has been told one thing after the other. What fails does not keep it from
what comes next. -/
def told (planner : Planner) (actions : List Action) : Planner :=
  actions.foldl (fun planner action => (planner.act action).2) planner

/-- A plan that is open has been handed over nowhere, a closed one at a single place. -/
structure Custody (planner : Planner) : Prop where
  withheld : planner.plan.closed = false → planner.deliveries = []
  handed : planner.plan.closed = true →
    ∃ destination, planner.deliveries = [(destination, planner.plan.fragment)]

/-- A planner of a request that has taken the first steps of its route, and whose plan is closed if
the last step is among them. -/
structure OnCourse (request : Request) (planner : Planner) : Prop where
  same : planner.request = request
  history : planner.history <+: request.mode.route
  state : planner.state? = planner.history.getLast?
  done : State.done ∈ planner.history → planner.plan.closed = true
  custody : planner.Custody

/-- What work on the plan comes to: nothing, more code, or handing it over. Only an open plan is
worked on. -/
inductive Work (planner : Planner) : Planner → Prop
  | idle : Work planner planner
  | write (code : Code) : planner.plan.closed = false →
      Work planner { planner with plan := { planner.plan with code := planner.plan.code ++ code } }
  | deliver (destination : Destination) (record : Log.Record) : planner.plan.closed = false →
      Work planner { planner with
        plan := { planner.plan with closed := true }
        deliveries := planner.deliveries ++ [(destination, planner.plan.fragment)]
        records := planner.records ++ [record] }

theorem flush_work (planner : Planner) (destination : Destination) :
    Work planner (planner.flush destination).2 := by
  unfold flush
  cases flushed : planner.plan.flush with
  | error e => exact .idle
  | ok plan =>
    obtain ⟨opened, rfl⟩ := Plan.flush_ok_iff.mp flushed
    exact .deliver destination _ opened

theorem emit_work (planner : Planner) (code : Code) : Work planner (planner.emit code).2 := by
  unfold emit
  cases emitted : planner.plan.emit code with
  | error e => exact .idle
  | ok plan =>
    obtain ⟨opened, rfl⟩ := Plan.emit_ok_iff.mp emitted
    exact .write _ opened

theorem enter_done (planner : Planner) :
    planner.enter .done = planner.flush planner.destination := by
  rw [enter, if_pos rfl]

theorem enter_writes {planner : Planner} {target : State} (work : target ≠ .done) :
    planner.enter target =
      let (outcome, plan) := planner.plan.write (planner.request.parts target)
      (outcome, { planner with plan }) := by
  rw [enter, if_neg work]

/-- However far writing gets, it comes to more code or to nothing. -/
theorem write_work (planner : Planner) (parts : List Part) :
    Work planner { planner with plan := (planner.plan.write parts).2 } := by
  rw [Plan.write_plan]
  cases closed : planner.plan.closed with
  | false => exact closed ▸ .write _ closed
  | true =>
    rw [Plan.written_closed closed, deeper_nil, List.append_nil, ← closed]
    exact .idle

theorem enter_work (planner : Planner) (target : State) :
    Work planner (planner.enter target).2 := by
  by_cases last : target = .done
  · rw [last, enter_done]
    exact planner.flush_work planner.destination
  · rw [enter_writes last]
    exact planner.write_work _

namespace Work

variable {planner next : Planner}

theorem continues (work : Work planner next) : planner.plan.Continues next.plan := by
  cases work with
  | idle => exact .refl _
  | write code opened => exact Plan.continues_write opened code
  | deliver => exact Plan.continues_close

/-- Work on the plan takes no steps. -/
theorem course (work : Work planner next) :
    next.request = planner.request ∧ next.history = planner.history ∧
      next.state? = planner.state? := by
  cases work <;> exact ⟨rfl, rfl, rfl⟩

theorem custody (work : Work planner next) (custody : planner.Custody) : next.Custody := by
  cases work with
  | idle => exact custody
  | write code opened =>
    refine ⟨fun _ => custody.withheld opened, fun closed => ?_⟩
    exact absurd (opened.symm.trans closed) Bool.false_ne_true
  | deliver destination record opened =>
    refine ⟨fun reopened => absurd reopened (by simp), fun _ => ?_⟩
    have first : planner.deliveries = [] := custody.withheld opened
    exact ⟨destination, by simp [first, Plan.fragment]⟩

end Work

/-- A planner goes on: it stays on its course, and so does its plan. -/
structure Onward (planner next : Planner) : Prop where
  course : ∀ {request}, OnCourse request planner → OnCourse request next
  plan : planner.plan.Continues next.plan

theorem Onward.refl (planner : Planner) : Onward planner planner := ⟨id, .refl _⟩

theorem Onward.trans {first second third : Planner} (early : Onward first second)
    (late : Onward second third) : Onward first third :=
  ⟨fun course => late.course (early.course course), early.plan.trans late.plan⟩

theorem Work.onward {planner next : Planner} (work : Work planner next) :
    Onward planner next := by
  refine ⟨fun {request} course => ?_, work.continues⟩
  obtain ⟨sameRequest, sameHistory, sameState⟩ := work.course
  refine ⟨sameRequest.trans course.same, sameHistory ▸ course.history, ?_, ?_,
    work.custody course.custody⟩
  · rw [sameState, sameHistory, course.state]
  · intro taken
    rw [sameHistory] at taken
    exact (work.continues.closed (course.done taken)).1

end Planner

end Stagewright.Connection
