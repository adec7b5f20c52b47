import Stagewright.Lifecycle
import Stagewright.Proofs.Demand

/-!
The parts of an operation. Together they make up its code, and all of them look at the parameters of
the stage that the operation is for.
-/

namespace Stagewright.Lifecycle.Operation

open Code

variable (view : View) (names : Names) (operation : Operation)

/-- What the parts of an operation look at. Only a report on a connection asks for something because
there is a log. -/
def demands : List String :=
  match operation with
  | .reuse => if view.logEnabled && isMetadataLess view.component then labelKeys view else []
  | operation => operation.keys view

section Keys

@[simp]
theorem keys_connect (statement : Statement) : keys view (.connect statement) = ["user"] := rfl

@[simp]
theorem keys_note_driverClass : keys view (.note .driverClass) = [] := rfl

@[simp]
theorem keys_shareLog : keys view .shareLog = [] := rfl

@[simp]
theorem keys_autoCommit (flag : Bool) (statement : Statement) :
    keys view (.autoCommit flag statement) = [] := rfl

@[simp]
theorem keys_effect (e : Effect) : keys view (.effect e) =
    labelKeys view ++ if e = .commit then ["data_action"] else [] := by
  cases e with
  | commit => rfl
  | rollback | close => exact (List.append_nil _).symm

end Keys

theorem code_parts :
    (operation.parts view names).flatMap Part.code = operation.code view names := by
  cases operation with
  | reuse => simp [parts, List.take_append_drop]
  | _ => simp [parts]

theorem keys_parts : (operation.parts view names).flatMap Part.keys = operation.demands view := by
  cases operation <;> simp [parts, demands]

theorem view_of_mem_parts : ∀ part ∈ operation.parts view names, part.view = view := by
  cases operation <;> simp [parts]

theorem excessOf?_parts :
    excessOf? (operation.parts view names) = view.excess? (operation.demands view) := by
  rw [excessOf?_eq (operation.view_of_mem_parts view names), keys_parts]

end Stagewright.Lifecycle.Operation
