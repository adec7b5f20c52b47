import Stagewright.Proofs.Code.Plan

/-!
Plans over time. Code is only ever appended, and a plan that has been closed keeps the code it has.
-/

namespace Stagewright.Code

/-- What a plan may become: it goes by the same names, its code goes on after the code it had, and
nothing is added once it is closed. -/
structure Plan.Continues (plan later : Plan) : Prop where
  cid : later.cid = plan.cid
  component : later.component = plan.component
  code : plan.code <+: later.code
  closed : plan.closed = true → later.closed = true ∧ later.code = plan.code

namespace Plan

variable {plan next : Plan}

theorem Continues.refl (plan : Plan) : plan.Continues plan :=
  ⟨rfl, rfl, List.prefix_refl _, fun closed => ⟨closed, rfl⟩⟩

theorem Continues.trans {first second third : Plan} (early : first.Continues second)
    (late : second.Continues third) : first.Continues third := by
  refine ⟨late.cid.trans early.cid, late.component.trans early.component,
    early.code.trans late.code, ?_⟩
  intro closed
  obtain ⟨closed, sameEarly⟩ := early.closed closed
  obtain ⟨closed, sameLate⟩ := late.closed closed
  exact ⟨closed, sameLate.trans sameEarly⟩

/-- What a closed plan hands over is settled. -/
theorem Continues.fragment {later : Plan} (continues : plan.Continues later)
    (closed : plan.closed = true) : later.fragment = plan.fragment := by
  obtain ⟨-, same⟩ := continues.closed closed
  simp only [Plan.fragment, continues.cid, continues.component, same]

theorem emit_ok_iff {code : Code} :
    plan.emit code = .ok next ↔
      plan.closed = false ∧ { plan with code := plan.code ++ code.deeper plan.depth } = next := by
  cases closed : plan.closed <;> simp [emit, closed]

theorem flush_ok_iff :
    plan.flush = .ok next ↔ plan.closed = false ∧ { plan with closed := true } = next := by
  cases closed : plan.closed <;> simp [flush, closed]

theorem continues_write (opened : plan.closed = false) (code : Code) :
    plan.Continues { plan with code := plan.code ++ code } := by
  refine ⟨rfl, rfl, List.prefix_append _ _, ?_⟩
  intro closed
  simp [opened] at closed

theorem continues_enter (opened : plan.closed = false) (code : Code) :
    plan.Continues { plan with code := plan.code ++ code, depth := plan.depth + 1 } := by
  refine ⟨rfl, rfl, List.prefix_append _ _, ?_⟩
  intro closed
  simp [opened] at closed

theorem continues_leave : plan.Continues plan.leaveBlock :=
  ⟨rfl, rfl, List.prefix_refl _, fun closed => ⟨closed, rfl⟩⟩

theorem continues_close : plan.Continues { plan with closed := true } :=
  ⟨rfl, rfl, List.prefix_refl _, fun _ => ⟨rfl, rfl⟩⟩

end Plan

end Stagewright.Code
