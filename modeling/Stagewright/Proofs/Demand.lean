import Mathlib.Data.List.TakeWhile
import Stagewright.Demand
import Stagewright.Proofs.Code.Growth
import Stagewright.Proofs.Value.Excess

/-!
What writing parts comes to. What stands in front of the first part that cannot be written stays in
the plan, and the writing fails for what is too much in that part. A closed plan takes parts as long
as there is no code in them.
-/

namespace Stagewright

namespace View

variable {view : View} {keys : List String}

theorem excess?_append (keys more : List String) :
    view.excess? (keys ++ more) = (view.excess? keys).or (view.excess? more) :=
  List.findSome?_append

theorem excess?_cons (key : String) (keys : List String) :
    view.excess? (key :: keys) =
      ((view.stage.params.get? key).bind Value.excess?).or (view.excess? keys) := by
  simp only [excess?, List.findSome?_cons]
  cases (view.stage.params.get? key).bind Value.excess? <;> rfl

theorem excess?_eq_none_iff : view.excess? keys = none ↔
    ∀ key ∈ keys, ∀ v, view.stage.params.get? key = some v → v.isWritable = true := by
  simp [excess?, List.findSome?_eq_none_iff, Option.bind_eq_none_iff, Value.isWritable]

/-- Views that hold the same under the keys that are looked at have the same too much in them. -/
theorem excess?_congr {w : View}
    (same : ∀ key ∈ keys, view.stage.params.get? key = w.stage.params.get? key) :
    view.excess? keys = w.excess? keys :=
  Value.findSome?_congr fun key member => by rw [same key member]

end View

namespace Code

/-- What is too much in the first of several parts that cannot be written. -/
def excessOf? (parts : List Part) : Option Excess := parts.findSome? Part.excess?

theorem excessOf?_cons (part : Part) (rest : List Part) :
    excessOf? (part :: rest) = part.excess?.or (excessOf? rest) := by
  simp only [excessOf?, List.findSome?_cons]
  cases part.excess? <;> rfl

theorem excessOf?_append (parts more : List Part) :
    excessOf? (parts ++ more) = (excessOf? parts).or (excessOf? more) :=
  List.findSome?_append

/-- Parts of one view look at their parameters one after the other. -/
theorem excessOf?_eq {view : View} {parts : List Part}
    (ofView : ∀ part ∈ parts, part.view = view) :
    excessOf? parts = view.excess? (parts.flatMap Part.keys) := by
  induction parts with
  | nil => rfl
  | cons part rest ih =>
    obtain ⟨here, later⟩ := List.forall_mem_cons.mp ofView
    rw [excessOf?_cons, ih later, List.flatMap_cons, View.excess?_append, Part.excess?, here]

section Deeper

variable (depth : Nat) (parts : List Part)

@[simp]
theorem Part.deeper_code (part : Part) :
    (part.deeper depth).code = Code.deeper depth part.code := rfl

@[simp]
theorem Part.deeper_keys (part : Part) : (part.deeper depth).keys = part.keys := rfl

@[simp]
theorem code_deeper_parts : (parts.map (Part.deeper depth)).flatMap Part.code =
    Code.deeper depth (parts.flatMap Part.code) := by
  induction parts with
  | nil => rfl
  | cons part rest ih => simp [ih]

@[simp]
theorem keys_deeper_parts : (parts.map (Part.deeper depth)).flatMap Part.keys =
    parts.flatMap Part.keys := by
  rw [List.flatMap_map]
  rfl

variable {parts}

theorem view_deeper_parts {view : View} (ofView : ∀ part ∈ parts, part.view = view) :
    ∀ part ∈ parts.map (Part.deeper depth), part.view = view := by
  intro part member
  obtain ⟨inner, among, rfl⟩ := List.mem_map.mp member
  exact ofView inner among

end Deeper

namespace Plan

/-- What parts add to a plan: nothing once it is closed, and nothing from the first part on that
cannot be written. -/
def written (plan : Plan) (parts : List Part) : Code :=
  if plan.closed then []
  else (parts.takeWhile fun part => part.excess?.isNone).flatMap Part.code

variable {plan : Plan}

theorem written_closed (closed : plan.closed = true) (parts : List Part) :
    plan.written parts = [] := if_pos closed

theorem written_excess {part : Part} {e : Excess} (large : part.excess? = some e)
    (rest : List Part) : plan.written (part :: rest) = [] := by
  simp [written, large]

theorem written_cons {part : Part} (opened : plan.closed = false) (fits : part.excess? = none)
    (rest : List Part) : plan.written (part :: rest) = part.code ++ plan.written rest := by
  simp [written, opened, fits]

theorem written_all {parts : List Part} (opened : plan.closed = false)
    (fits : excessOf? parts = none) : plan.written parts = parts.flatMap Part.code := by
  have each := List.findSome?_eq_none_iff.mp fits
  rw [written, if_neg (by simp [opened]),
    List.takeWhile_eq_self_iff.mpr fun part member => by simp [each part member]]

variable (plan) in
/-- What writing parts leaves behind, done or not. -/
theorem write_plan (parts : List Part) : (plan.write parts).2 =
    { plan with code := plan.code ++ Code.deeper plan.depth (plan.written parts) } := by
  induction parts generalizing plan with
  | nil => simp [write, written]
  | cons part rest ih =>
    cases large : part.excess? with
    | some e => simp [write, large, written_excess large]
    | none =>
      rcases Bool.eq_false_or_eq_true plan.closed with closed | opened
      · rw [written_closed closed]
        by_cases empty : part.code = []
        · simp [write, large, perform, empty, ih, written_closed closed]
        · simp [write, large, perform, empty, emit_closed closed]
      · simp only [write, large, perform_open opened]
        refine (ih _).trans ?_
        have later : written { plan with code := plan.code ++ part.code.deeper plan.depth } rest =
            plan.written rest := rfl
        simp [written_cons opened large, later]

/-- Writing parts on an open plan goes on up to the first that cannot be written. -/
theorem write_open (opened : plan.closed = false) (parts : List Part) :
    (plan.write parts).1 =
      match excessOf? parts with
      | some e => .error (.excess e)
      | none => .ok () := by
  induction parts generalizing plan with
  | nil => rfl
  | cons part rest ih =>
    rw [excessOf?_cons]
    cases large : part.excess? with
    | some e => simp [write, large]
    | none =>
      simp only [write, large, perform_open opened, Option.none_or]
      exact @ih { plan with code := plan.code ++ part.code.deeper plan.depth } opened

/-- A closed plan takes parts as long as there is no code in them. -/
theorem write_ok_iff (parts : List Part) : (plan.write parts).1 = .ok () ↔
    excessOf? parts = none ∧ (plan.closed = true → parts.flatMap Part.code = []) := by
  cases closed : plan.closed with
  | false =>
    rw [write_open closed]
    cases excessOf? parts <;> simp
  | true =>
    induction parts with
    | nil => simp [write, excessOf?]
    | cons part rest ih =>
      rw [excessOf?_cons]
      cases large : part.excess? with
      | some e => simp [write, large]
      | none =>
        by_cases empty : part.code = []
        · simp [write, large, perform, empty, ih]
        · simp [write, large, perform, empty, emit_closed closed]

/-- Where all parts can be written, an open plan takes their code. -/
theorem write_all (opened : plan.closed = false) {parts : List Part}
    (fits : excessOf? parts = none) : plan.write parts =
      (.ok (), { plan with
        code := plan.code ++ Code.deeper plan.depth (parts.flatMap Part.code) }) := by
  refine Prod.ext ?_ ?_
  · rw [write_open opened, fits]
  · rw [write_plan, written_all opened fits]

end Plan

end Code

end Stagewright
