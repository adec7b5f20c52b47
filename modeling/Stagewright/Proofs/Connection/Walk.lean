import Stagewright.Proofs.Connection.Parts

/-!
What a planner writes on its way. While its plan is open a step that comes next fails only for what
it looks at, so a planner that sets out at the beginning of its route arrives at the end of it, or
breaks off at the first part that cannot be written.
-/

namespace Stagewright.Connection

open Code

/-- Every route ends where the plan is handed over, and nowhere before. -/
theorem Mode.route_ends (mode : Mode) :
    ∃ steps, mode.route = steps ++ [State.done] ∧ State.done ∉ steps := by
  cases mode with
  | direct =>
    exact ⟨[.init, .driverLoaded, .urlBuilt, .connected, .autoCommitSet, .registered], rfl,
      by decide⟩
  | shared =>
    exact ⟨[.init, .urlBuilt, .connected, .autoCommitSet, .registered], rfl, by decide⟩
  | served => exact ⟨[.init, .registered, .autoCommitSet], rfl, by decide⟩

namespace Planner

/-- The planner once it has taken steps and written their code. -/
def after (planner : Planner) (steps : List State) : Planner :=
  { planner with
    state? := steps.getLast?.or planner.state?
    history := planner.history ++ steps
    plan := { planner.plan with
      code := planner.plan.code ++
        Code.deeper planner.plan.depth (steps.flatMap planner.request.code) } }

theorem after_nil (planner : Planner) : planner.after [] = planner := by
  simp [after]

theorem after_after (planner : Planner) (first second : List State) :
    (planner.after first).after second = planner.after (first ++ second) := by
  simp [after, Option.or_assoc]

/-- A planner on its way along the route takes the next step of it and stays on its way. -/
theorem onward {planner : Planner} {target : State} {steps rest : List State}
    (onRoute : planner.route = planner.history ++ (target :: steps) ++ rest) :
    planner.route[planner.history.length]? = some target ∧
      (planner.after [target]).route = (planner.after [target]).history ++ steps ++ rest := by
  refine ⟨by simp [onRoute], ?_⟩
  change planner.route = planner.history ++ [target] ++ steps ++ rest
  rw [onRoute]
  simp

section Advance

variable {planner : Planner} {target : State}
  (next : planner.route[planner.history.length]? = some target)

include next

/-- A step that writes code and comes next is taken, if all its parts can be written. -/
theorem advance_open (work : target ≠ .done) (opened : planner.plan.closed = false)
    (fits : excessOf? (planner.request.parts target) = none) :
    planner.advance target = (.ok (), planner.after [target]) := by
  rw [advance, if_pos next, enter, if_neg work]
  simp only [Plan.write_all opened fits]
  simp [after, Request.code]

/-- It fails for what is too much in the first part that cannot be. -/
theorem advance_excess (work : target ≠ .done) (opened : planner.plan.closed = false) {e : Excess}
    (large : excessOf? (planner.request.parts target) = some e) :
    (planner.advance target).1 = .error (.excess e) := by
  rw [advance, if_pos next, enter, if_neg work]
  simp only [Plan.write_open opened, large]

end Advance

/-- The last step hands over the plan. -/
theorem advance_done {planner : Planner}
    (next : planner.route[planner.history.length]? = some .done) :
    planner.advance .done = (planner.after [.done]).flush planner.destination := by
  simp [advance, if_pos next, enter, after, Request.code_done]

section Walk

variable {planner : Planner}

/-- After a step that is not taken no other one is. -/
theorem walk_error {target : State} {rest : List State} {e : GenerationError}
    (failed : (planner.advance target).1 = .error e) :
    planner.walk (target :: rest) = planner.advance target := by
  unfold walk
  split
  · rename_i next advanced
    rw [advanced] at failed
    exact absurd failed (by simp)
  · rename_i advanced
    exact advanced.symm

theorem walk_ok {target : State} {rest : List State}
    (taken : (planner.advance target).1 = .ok ()) :
    planner.walk (target :: rest) = (planner.advance target).2.walk rest := by
  rw [walk]
  split
  · rename_i next advanced
    rw [advanced]
  · rename_i e next advanced
    rw [advanced] at taken
    exact absurd taken (by simp)

variable {steps rest : List State} (onRoute : planner.route = planner.history ++ steps ++ rest)
  (work : State.done ∉ steps) (opened : planner.plan.closed = false)

include onRoute work opened

theorem walk_steps (fits : excessOf? (steps.flatMap planner.request.parts) = none) :
    planner.walk (steps ++ rest) = (planner.after steps).walk rest := by
  induction steps generalizing planner with
  | nil => rw [List.nil_append, after_nil]
  | cons target steps ih =>
    -- once the first step is taken the planner is on its way along the others
    obtain ⟨next, after⟩ := onward onRoute
    have notDone : target ≠ .done := fun same => work (by simp [same])
    rw [List.flatMap_cons, excessOf?_append, Option.or_eq_none_iff] at fits
    have taken := advance_open next notDone opened fits.1
    rw [List.cons_append, walk_ok (by rw [taken]), taken]
    rw [ih after (fun later => work (List.mem_cons_of_mem _ later)) opened fits.2, after_after]
    rfl

theorem walk_excess {e : Excess}
    (large : excessOf? (steps.flatMap planner.request.parts) = some e) :
    (planner.walk (steps ++ rest)).1 = .error (.excess e) := by
  induction steps generalizing planner with
  | nil => simp [excessOf?] at large
  | cons target steps ih =>
    obtain ⟨next, after⟩ := onward onRoute
    have notDone : target ≠ .done := fun same => work (by simp [same])
    rw [List.flatMap_cons, excessOf?_append] at large
    cases here : excessOf? (planner.request.parts target) with
    | some found =>
      have failed := advance_excess next notDone opened here
      rw [List.cons_append, walk_error failed, failed]
      rw [here, Option.some_or] at large
      rw [Option.some.inj large]
    | none =>
      have taken := advance_open next notDone opened here
      rw [here, Option.none_or] at large
      rw [List.cons_append, walk_ok (by rw [taken]), taken]
      exact ih after (fun later => work (List.mem_cons_of_mem _ later)) opened large

end Walk

section Route

variable {planner : Planner} (start : planner.history = []) (opened : planner.plan.closed = false)

/-- The last step looks at nothing. -/
theorem excess?_of_route {request : Request} {steps : List State}
    (ends : request.mode.route = steps ++ [.done]) :
    request.excess? = excessOf? (steps.flatMap request.parts) := by
  rw [Request.excess?, ends, List.flatMap_append, excessOf?_append]
  exact Option.or_none

include start opened

/-- From the beginning of its route a planner with an open plan writes the code of every step and
hands over the plan. -/
theorem walk_route (fits : planner.request.excess? = none) :
    planner.walk planner.route = (planner.after planner.route).flush planner.destination := by
  obtain ⟨steps, ends, work⟩ := planner.request.mode.route_ends
  have onRoute : planner.route = planner.history ++ steps ++ [.done] := by
    rw [start]
    exact ends
  have last : (planner.after steps).route[(planner.after steps).history.length]? =
      some .done := by
    change planner.route[(planner.history ++ steps).length]? = some .done
    simp [onRoute]
  have finish := advance_done last
  rw [after_after] at finish
  rw [excess?_of_route ends] at fits
  rw [show planner.route = steps ++ [.done] from ends, walk_steps onRoute work opened fits]
  simp only [walk, finish]
  simp [flush, Plan.flush, after, opened]

/-- A run from the beginning takes the whole route and hands over the plan where it is sent. -/
theorem run_open (destination : Option Destination) (fits : planner.request.excess? = none) :
    planner.run destination =
      (after { planner with
        destination := destination.getD planner.destination
        records := planner.records ++ [planner.planning] } planner.route).flush
      (destination.getD planner.destination) :=
  @walk_route { planner with
    destination := destination.getD planner.destination
    records := planner.records ++ [planner.planning] } start opened fits

/-- It fails for what is too much in the first part that cannot be written. -/
theorem run_excess (destination : Option Destination) {e : Excess}
    (large : planner.request.excess? = some e) :
    (planner.run destination).1 = .error (.excess e) := by
  obtain ⟨steps, ends, work⟩ := planner.request.mode.route_ends
  have onRoute : planner.route = planner.history ++ steps ++ [.done] := by
    rw [start]
    exact ends
  rw [excess?_of_route ends] at large
  have failed := @walk_excess { planner with
    destination := destination.getD planner.destination
    records := planner.records ++ [planner.planning] } steps [.done] onRoute work opened e large
  rwa [← ends] at failed

end Route

theorem flush_open {planner : Planner} (opened : planner.plan.closed = false)
    (destination : Destination) :
    planner.flush destination = (.ok (), { planner with
      plan := { planner.plan with closed := true }
      deliveries := planner.deliveries ++ [(destination, planner.plan.fragment)]
      records := planner.records ++ [planner.plan.flushed] }) := by
  simp [flush, Plan.flush_open opened, Plan.fragment, Plan.flushed]

end Planner

end Stagewright.Connection
