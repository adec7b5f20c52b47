import Stagewright.Code.Plan
import Stagewright.Proofs.Code.Position

/-!
Writing to a plan never fails as long as it is open, and always fails once it is closed.
-/

namespace Stagewright.Code.Plan

variable {plan : Plan}

section Open

variable (opened : plan.closed = false)

include opened

theorem emit_open (code : Code) :
    plan.emit code = .ok { plan with code := plan.code ++ code.deeper plan.depth } := by
  simp [emit, opened]

theorem perform_eq_emit (code : Code) : plan.perform code = plan.emit code := by
  cases code with
  | nil => simp [perform, emit_open opened]
  | cons line rest => simp [perform]

theorem perform_open (code : Code) :
    plan.perform code = .ok { plan with code := plan.code ++ code.deeper plan.depth } := by
  rw [perform_eq_emit opened, emit_open opened]

theorem openBlock_open (header : Statement) :
    plan.openBlock header = .ok { plan with
      code := plan.code ++ Code.deeper plan.depth [⟨0, header⟩]
      depth := plan.depth + 1 } := by
  simp only [openBlock, emit_open opened]
  rfl

theorem flush_open : plan.flush = .ok { plan with closed := true } := by
  simp [flush, opened]

end Open

section Closed

variable (closed : plan.closed = true)

include closed

theorem emit_closed (code : Code) : plan.emit code = .error (.planClosed plan.cid) := by
  simp [emit, closed]

theorem flush_closed : plan.flush = .error (.planClosed plan.cid) := by
  simp [flush, closed]

end Closed

end Stagewright.Code.Plan
