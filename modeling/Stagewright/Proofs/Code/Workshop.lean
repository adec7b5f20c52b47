import Stagewright.Code.Workshop
import Stagewright.Proofs.Attempt
import Stagewright.Proofs.Code.Growth
import Stagewright.Proofs.Value.Dict

/-!
What the operations of a workshop come to: each of them looks up one plan and puts it back, or fails
and changes nothing.
-/

namespace Stagewright.Code.Workshop

variable {w next : Workshop} {id : String}

/-- The plan of a name, if it has been started. -/
def plan? (w : Workshop) (id : String) : Option Plan := w.plans.get? id

theorem plan?_setPlan (w : Workshop) (id other : String) (plan : Plan) :
    (w.setPlan id plan).plan? other = if other = id then some plan else w.plan? other :=
  Dict.get?_put w.plans id other plan

theorem plan_ok_iff {plan : Plan} : w.plan id = .ok plan ↔ w.plan? id = some plan := by
  unfold Workshop.plan plan?
  cases w.plans.get? id <;> simp

theorem emit_ok_iff {statements : List Statement} {written : Plan} :
    w.emit id statements = .ok (next, written) ↔ ∃ plan, w.plan? id = some plan ∧
      plan.closed = false ∧
      { plan with code := plan.code ++ (ofStatements statements).deeper plan.depth } = written ∧
      w.setPlan id written = next := by
  simp only [emit, Attempt.bind_ok, Attempt.mapError_ok, Attempt.pure_ok, plan_ok_iff,
    Plan.emit_ok_iff, Prod.mk.injEq]
  constructor
  · rintro ⟨plan, found, _, ⟨opened, rfl⟩, rfl, rfl⟩
    exact ⟨plan, found, opened, rfl, rfl⟩
  · rintro ⟨plan, found, opened, rfl, rfl⟩
    exact ⟨plan, found, _, ⟨opened, rfl⟩, rfl, rfl⟩

theorem flush_ok_iff :
    w.flush id = .ok next ↔ ∃ plan, w.plan? id = some plan ∧ plan.closed = false ∧
      { w.setPlan id { plan with closed := true } with
        program := w.program ++ [plan.fragment]
        records := w.records ++ [plan.flushed] } = next := by
  simp only [flush, Attempt.bind_ok, Attempt.mapError_ok, Attempt.pure_ok, plan_ok_iff,
    Plan.flush_ok_iff]
  constructor
  · rintro ⟨plan, found, _, ⟨opened, rfl⟩, rfl⟩
    exact ⟨plan, found, opened, rfl⟩
  · rintro ⟨plan, found, opened, rfl⟩
    exact ⟨plan, found, _, ⟨opened, rfl⟩, rfl⟩

theorem openBlock_ok_iff {header : Statement} :
    w.openBlock id header = .ok next ↔ ∃ plan, w.plan? id = some plan ∧ plan.closed = false ∧
      w.setPlan id { plan with
        code := plan.code ++ (ofStatements [header]).deeper plan.depth
        depth := plan.depth + 1 } = next := by
  simp only [openBlock, Plan.openBlock, Attempt.bind_ok, Attempt.mapError_ok, Attempt.pure_ok,
    plan_ok_iff, Plan.emit_ok_iff]
  constructor
  · rintro ⟨plan, found, _, ⟨_, ⟨opened, rfl⟩, rfl⟩, rfl⟩
    exact ⟨plan, found, opened, rfl⟩
  · rintro ⟨plan, found, opened, rfl⟩
    exact ⟨plan, found, _, ⟨_, ⟨opened, rfl⟩, rfl⟩, rfl⟩

theorem leaveBlock_eq {plan : Plan} (found : w.plan? id = some plan) :
    w.leaveBlock id = w.setPlan id plan.leaveBlock := by
  rw [leaveBlock, show w.plans.get? id = some plan from found]

section Open

variable {plan : Plan} (found : w.plan? id = some plan) (opened : plan.closed = false)

include found opened

theorem emit_open (statements : List Statement) :
    (w.emit id statements).map (·.1) = .ok (w.setPlan id { plan with
      code := plan.code ++ (ofStatements statements).deeper plan.depth }) := by
  rw [emit_ok_iff.mpr ⟨plan, found, opened, rfl, rfl⟩]
  rfl

theorem flush_open :
    w.flush id = .ok { w.setPlan id { plan with closed := true } with
      program := w.program ++ [plan.fragment]
      records := w.records ++ [plan.flushed] } :=
  flush_ok_iff.mpr ⟨plan, found, opened, rfl⟩

theorem openBlock_open (header : Statement) :
    w.openBlock id header = .ok (w.setPlan id { plan with
      code := plan.code ++ (ofStatements [header]).deeper plan.depth
      depth := plan.depth + 1 }) :=
  openBlock_ok_iff.mpr ⟨plan, found, opened, rfl⟩

end Open

section Closed

variable {plan : Plan} (found : w.plan? id = some plan) (closed : plan.closed = true)

include found closed

theorem emit_closed (statements : List Statement) :
    w.emit id statements = .error (.emission (.planClosed plan.cid)) := by
  rw [emit, plan_ok_iff.mpr found]
  change ((plan.emit (ofStatements statements)).mapError StepFault.emission >>= _) = _
  rw [Plan.emit_closed closed]
  rfl

theorem flush_closed : w.flush id = .error (.emission (.planClosed plan.cid)) := by
  rw [flush, plan_ok_iff.mpr found]
  change (plan.flush.mapError StepFault.emission >>= _) = _
  rw [Plan.flush_closed closed]
  rfl

end Closed

end Stagewright.Code.Workshop
