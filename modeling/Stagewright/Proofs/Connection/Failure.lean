import Mathlib.Data.List.Induction
import Stagewright.Proofs.Connection.Run

/-!
Steps that fail. A step that does not come next is refused before anything happens. One that comes
next counts as taken before its work is done, so a planner whose work fails has moved on all the
same, with what was written by then in its plan.
-/

namespace Stagewright.Connection

open Code

namespace Planner

section Advance

variable (planner : Planner) (target : State)

/-- Whether the work of a step gets done: it needs an open plan to write or to hand over. -/
theorem enter_ok_iff :
    (planner.enter target).1 = .ok () ↔
      excessOf? (planner.request.parts target) = none ∧
        (planner.plan.closed = true →
          target ≠ .done ∧ planner.request.code target = []) := by
  by_cases last : target = .done
  · subst last
    rw [enter_done, flush]
    cases closed : planner.plan.closed with
    | false => simp [Plan.flush_open closed, Request.parts, excessOf?]
    | true => simp [Plan.flush_closed closed]
  · rw [enter_writes last]
    simp [Plan.write_ok_iff, last, Request.code]

/-- What the work of a step leaves behind, done or not. -/
theorem enter_plan :
    (planner.enter target).2.plan = { planner.plan with
      code := planner.plan.code ++ Code.deeper planner.plan.depth
        (planner.plan.written (planner.request.parts target))
      closed := planner.plan.closed || target == .done } := by
  by_cases last : target = .done
  · subst last
    rw [enter_done, flush]
    cases closed : planner.plan.closed with
    | false =>
      rw [Plan.flush_open closed]
      simp [Request.parts, Plan.written]
    | true =>
      rw [Plan.flush_closed closed, Plan.written_closed closed]
      simp [← closed]
  · rw [enter_writes last]
    simp [Plan.write_plan, last]

theorem enter_course :
    (planner.enter target).2.state? = planner.state? ∧
      (planner.enter target).2.history = planner.history := by
  obtain ⟨-, history, state⟩ := (planner.enter_work target).course
  exact ⟨state, history⟩

variable {planner target}

theorem advance_refused (other : planner.route[planner.history.length]? ≠ some target) :
    planner.advance target =
      (.error (.emission (.offRoute planner.request.view.cid planner.request.mode.name
        (planner.state?.elim "start" State.name) target.name)), planner) := by
  rw [advance, if_neg other]

variable (next : planner.route[planner.history.length]? = some target)

include next

theorem advance_ok_iff :
    (planner.advance target).1 = .ok () ↔
      excessOf? (planner.request.parts target) = none ∧
        (planner.plan.closed = true →
          target ≠ .done ∧ planner.request.code target = []) := by
  rw [advance, if_pos next, enter_ok_iff]

/-- The step counts as taken, whatever comes of its work. -/
theorem advance_course :
    (planner.advance target).2.state? = some target ∧
      (planner.advance target).2.history = planner.history ++ [target] := by
  rw [advance, if_pos next]
  exact enter_course _ target

theorem advance_plan :
    (planner.advance target).2.plan = { planner.plan with
      code := planner.plan.code ++ Code.deeper planner.plan.depth
        (planner.plan.written (planner.request.parts target))
      closed := planner.plan.closed || target == .done } := by
  rw [advance, if_pos next, enter_plan]

/-- A step that is taken has its code in the plan from then on. -/
theorem advance_code (flat : planner.plan.depth = 0)
    (done : (planner.advance target).1 = .ok ()) :
    planner.request.code target <:+: (planner.advance target).2.plan.code := by
  obtain ⟨fits, unclosed⟩ := (advance_ok_iff next).mp done
  cases closed : planner.plan.closed with
  | false =>
    rw [advance_plan next, Plan.written_all closed fits, flat, deeper_zero]
    exact (List.suffix_append _ _).isInfix
  | true =>
    rw [(unclosed closed).2]
    exact List.nil_infix

end Advance

/-- What is on record after something a planner has been told. Every step that is new has its code
in the plan, unless it is the step at which the planner failed. -/
structure Records (planner : Planner) (result : Except GenerationError Unit × Planner) : Prop where
  request : result.2.request = planner.request
  depth : result.2.plan.depth = planner.plan.depth
  grows : planner.plan.code <+: result.2.plan.code
  steps : ∀ state ∈ result.2.history, state ∈ planner.history ∨
    planner.request.code state <:+: result.2.plan.code ∨
      result.1 ≠ .ok () ∧ result.2.state? = some state

namespace Records

theorem of_work {planner next : Planner} (work : Work planner next)
    (outcome : Except GenerationError Unit) : Records planner (outcome, next) := by
  obtain ⟨request, history, -⟩ := work.course
  have depth : next.plan.depth = planner.plan.depth := by cases work <;> rfl
  exact ⟨request, depth, work.continues.code, fun state taken => .inl (history ▸ taken)⟩

/-- A planner that has done one thing may go on to the next. -/
theorem next {planner next : Planner} {result : Except GenerationError Unit × Planner}
    (first : Records planner (.ok (), next)) (later : Records next result) :
    Records planner result := by
  refine ⟨later.request.trans first.request, later.depth.trans first.depth,
    first.grows.trans later.grows, fun state taken => ?_⟩
  rcases later.steps state taken with before | code | failed
  · rcases first.steps state before with old | code | failed
    · exact .inl old
    · exact .inr (.inl (code.trans later.grows.isInfix))
    · exact absurd rfl failed.1
  · exact .inr (.inl (first.request ▸ code))
  · exact .inr (.inr failed)

end Records

theorem advance_records (planner : Planner) (flat : planner.plan.depth = 0) (target : State) :
    Records planner (planner.advance target) := by
  by_cases next : planner.route[planner.history.length]? = some target
  · have plan := advance_plan next
    obtain ⟨recorded, history⟩ := advance_course next
    refine ⟨planner.advance_request target, by rw [plan], ?_, fun state taken => ?_⟩
    · rw [plan]
      exact List.prefix_append _ _
    · rw [history] at taken
      rcases List.mem_append.mp taken with old | new
      · exact .inl old
      · obtain rfl := List.mem_singleton.mp new
        by_cases done : (planner.advance state).1 = .ok ()
        · exact .inr (.inl (advance_code next flat done))
        · exact .inr (.inr ⟨done, recorded⟩)
  · rw [advance_refused next]
    exact .of_work .idle _

theorem walk_records (planner : Planner) (flat : planner.plan.depth = 0) (targets : List State) :
    Records planner (planner.walk targets) := by
  induction targets generalizing planner with
  | nil => exact .of_work .idle _
  | cons target rest ih =>
    have first := planner.advance_records flat target
    unfold walk
    split
    case h_1 next advanced =>
      rw [advanced] at first
      exact first.next (ih next (first.depth.trans flat))
    case h_2 e next advanced =>
      rw [advanced] at first
      exact first

theorem act_records (planner : Planner) (flat : planner.plan.depth = 0) (action : Action) :
    Records planner (planner.act action) := by
  cases action with
  | advance target => exact planner.advance_records flat target
  | run destination =>
    obtain ⟨request, depth, grows, steps⟩ := walk_records { planner with
      destination := destination.getD planner.destination
      records := planner.records ++ [planner.planning] } flat planner.route
    exact ⟨request, depth, grows, steps⟩
  | flush destination => exact .of_work (planner.flush_work destination) _
  | emit code => exact .of_work (planner.emit_work code) _

theorem told_append (planner : Planner) (actions : List Action) (action : Action) :
    planner.told (actions ++ [action]) = ((planner.told actions).act action).2 := by
  simp [told]

theorem told_depth (request : Request) (actions : List Action) :
    (request.planner.told actions).plan.depth = 0 := by
  induction actions using List.reverseRecOn with
  | nil => rfl
  | append_singleton actions action ih =>
    rw [told_append]
    exact (act_records _ ih action).depth.trans ih

/-- A step on record has its code in the plan, unless it is one at which the planner failed. -/
theorem told_records (request : Request) (actions : List Action) :
    ∀ state ∈ (request.planner.told actions).history,
      request.code state <:+: (request.planner.told actions).plan.code ∨
        ∃ before action after, actions = before ++ action :: after ∧
          state ∉ (request.planner.told before).history ∧
          ((request.planner.told before).act action).1 ≠ .ok () ∧
          ((request.planner.told before).act action).2.state? = some state := by
  induction actions using List.reverseRecOn with
  | nil => simp [told, Request.planner]
  | append_singleton actions action ih =>
    intro state taken
    rw [told_append] at taken ⊢
    have records := act_records _ (told_depth request actions) action
    by_cases old : state ∈ (request.planner.told actions).history
    · rcases ih state old with code | ⟨before, failing, after, rfl, fails⟩
      · exact .inl (code.trans records.grows.isInfix)
      · exact .inr ⟨before, failing, after ++ [action], by simp, fails⟩
    · rcases records.steps state taken with known | code | ⟨failed, last⟩
      · exact absurd known old
      · rw [told_request] at code
        exact .inl code
      · exact .inr ⟨actions, action, [], rfl, old, failed, last⟩

/-- A step is taken into the records before its work is done. Whatever a planner has been told, in
any order and whether it could do it or not, a step that does not come next on the route is refused
and changes nothing. One that comes next is where the planner stands from then on and the last of
the steps it has taken; the plan has gained the code of all parts up to the first that cannot be
written out, or nothing if it was closed. The step succeeds exactly if there is no such part and, in
case the plan was closed, nothing to write or to hand over. So a step that fails leaves the planner
as it was exactly if it does not come next, and a step on record has its code in the plan unless the
planner failed at it. -/
theorem steps_recorded_before_work (request : Request) (actions : List Action) :
    let planner := request.planner.told actions
    let next? := request.mode.route[planner.history.length]?
    (∀ target, next? ≠ some target →
      planner.advance target =
        (.error (.emission (.offRoute request.view.cid request.mode.name
          (planner.state?.elim "start" State.name) target.name)), planner)) ∧
      (∀ target, next? = some target →
        let result := planner.advance target
        result.2.state? = some target ∧ result.2.history = planner.history ++ [target] ∧
          result.2.plan.code = planner.plan.code ++ planner.plan.written (request.parts target) ∧
          (result.1 = .ok () ↔
            excessOf? (request.parts target) = none ∧
              (planner.plan.closed = true → target ≠ .done ∧ request.code target = []))) ∧
      (∀ target, (planner.advance target).1 ≠ .ok () →
        ((planner.advance target).2 = planner ↔ next? ≠ some target)) ∧
      ∀ state ∈ planner.history,
        request.code state <:+: planner.plan.code ∨
          ∃ before action after, actions = before ++ action :: after ∧
            state ∉ (request.planner.told before).history ∧
            ((request.planner.told before).act action).1 ≠ .ok () ∧
            ((request.planner.told before).act action).2.state? = some state := by
  intro planner next?
  have same : planner.request = request := told_request request.planner actions
  have flat : planner.plan.depth = 0 := told_depth request actions
  have route : planner.route[planner.history.length]? = next? := by rw [Planner.route, same]
  refine ⟨fun target other => ?_, fun target next => ?_, fun target failed => ⟨?_, ?_⟩,
    told_records request actions⟩
  · have refused := @advance_refused planner target (route ▸ other)
    rw [same] at refused
    exact refused
  · have comes := route.trans next
    obtain ⟨state, history⟩ := advance_course comes
    refine ⟨state, history, ?_, ?_⟩
    · rw [advance_plan comes, flat, deeper_zero, same]
    · rw [← same]
      exact advance_ok_iff comes
  · intro unchanged next
    -- the record of the steps is longer by one
    obtain ⟨-, history⟩ := advance_course (route.trans next)
    rw [unchanged] at history
    simp at history
  · intro other
    rw [advance_refused (route ▸ other)]

/-- A planner whose plan is handed over too early goes on to the next step, fails at it, and has it
on record without its code. -/
theorem early_flush_step_recorded :
    let request := Generation.request { stage := { cid := "c" } }
    let planner := request.planner.told [.advance .init, .flush 1]
    let result := planner.advance .driverLoaded
    planner.history = [.init] ∧
      result.1 = .error (.emission (.planClosed "c")) ∧
      result.2.state? = some .driverLoaded ∧
      result.2.history = [.init, .driverLoaded] ∧
      result.2.plan = planner.plan ∧
      ¬request.code .driverLoaded <:+: result.2.plan.code := by
  decide +kernel

end Planner

end Stagewright.Connection
