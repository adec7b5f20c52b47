import Stagewright.Code.Line

/-!
Code seen line by line, each line by itself or with the lines in front of it, and how the operations
that put code together act on that.
-/

namespace Stagewright.Code

@[simp] theorem deeper_nil (depth : Nat) : deeper depth [] = [] := rfl

@[simp] theorem deeper_append (depth : Nat) (a b : Code) :
    deeper depth (a ++ b) = deeper depth a ++ deeper depth b := List.map_append

@[simp] theorem Line.deeper_zero (line : Line) : line.deeper 0 = line := by
  simp only [Line.deeper, Nat.zero_add]

@[simp] theorem deeper_zero (code : Code) : deeper 0 code = code := by
  have same : Line.deeper 0 = id := funext Line.deeper_zero
  rw [deeper, same, List.map_id]

theorem deeper_deeper (outer inner : Nat) (code : Code) :
    deeper outer (deeper inner code) = deeper (outer + inner) code := by
  simp [deeper, Line.deeper, Function.comp_def, Nat.add_assoc]

@[simp] theorem ofStatements_append (a b : List Statement) :
    ofStatements (a ++ b) = ofStatements a ++ ofStatements b := List.map_append

/-- Every line of the code stands in the relation to the lines in front of it. -/
def AtEach (holds : Code → Line → Prop) (code : Code) : Prop :=
  ∀ before line after, code = before ++ line :: after → holds before line

theorem AtEach.nil (holds : Code → Line → Prop) : AtEach holds [] := by
  intro before line after split
  exact absurd split (by simp)

theorem AtEach.mono {weak strong : Code → Line → Prop} {code : Code}
    (each : AtEach strong code) (weaken : ∀ before line, strong before line → weak before line) :
    AtEach weak code :=
  fun before line after split => weaken before line (each before line after split)

/-- The lines of the second of two pieces have the whole first piece in front of them. -/
theorem AtEach.append {holds : Code → Line → Prop} {a b : Code} (first : AtEach holds a)
    (second : AtEach (fun before => holds (a ++ before)) b) : AtEach holds (a ++ b) := by
  intro before line after split
  rcases List.append_eq_append_iff.mp split with ⟨rest, atBefore, atB⟩ | ⟨rest, atA, atLine⟩
  · subst atBefore
    exact second rest line after atB
  · cases rest with
    | nil =>
      rw [List.append_nil] at atA
      subst atA
      simpa using second [] line after atLine.symm
    | cons other rest =>
      obtain ⟨same, -⟩ := List.cons.inj atLine
      subst same
      exact first before line rest atA

theorem AtEach.cons {holds : Code → Line → Prop} {line : Line} {code : Code}
    (first : holds [] line) (rest : AtEach (fun before => holds (line :: before)) code) :
    AtEach holds (line :: code) := by
  intro before other after split
  cases before with
  | nil =>
    obtain ⟨same, -⟩ := List.cons.inj split
    exact same ▸ first
  | cons head before =>
    obtain ⟨same, split⟩ := List.cons.inj split
    exact same ▸ rest before other after split

theorem AtEach.deeper {holds : Code → Line → Prop} {depth : Nat} {code : Code}
    (each : AtEach (fun before line => holds (before.deeper depth) (line.deeper depth)) code) :
    AtEach holds (code.deeper depth) := by
  intro before line after split
  obtain ⟨front, back, same, atBefore, atRest⟩ := List.map_eq_append_iff.mp split
  obtain ⟨source, rest, sameBack, atLine, -⟩ := List.map_eq_cons_iff.mp atRest
  subst sameBack atBefore atLine
  exact each front source rest same

/-- Every statement of the code has a property. -/
def Each (holds : Statement → Prop) (code : Code) : Prop := ∀ line ∈ code, holds line.statement

namespace Each

variable {holds : Statement → Prop}

theorem nil : Each holds [] := fun _ none => absurd none List.not_mem_nil

theorem append {a b : Code} (first : Each holds a) (second : Each holds b) : Each holds (a ++ b) :=
  fun line found => (List.mem_append.mp found).elim (first line) (second line)

theorem cons {statement : Statement} {statements : List Statement} (first : holds statement)
    (rest : Each holds (ofStatements statements)) :
    Each holds (ofStatements (statement :: statements)) := by
  intro line found
  obtain rfl | later := List.mem_cons.mp found
  · exact first
  · exact rest line later

theorem block {header : Statement} {body : Code} (first : holds header)
    (inside : Each holds body) : Each holds (Code.block header body) := by
  intro line found
  obtain rfl | deeper := List.mem_cons.mp found
  · exact first
  · obtain ⟨shallow, there, rfl⟩ := List.mem_map.mp deeper
    exact inside shallow there

theorem ite {p : Prop} [Decidable p] {a b : Code} (yes : p → Each holds a)
    (no : ¬p → Each holds b) : Each holds (if p then a else b) := by
  split
  · exact yes ‹_›
  · exact no ‹_›

theorem flatMap {α : Type} {steps : List α} {code : α → Code}
    (each : ∀ step ∈ steps, Each holds (code step)) : Each holds (steps.flatMap code) := by
  intro line found
  obtain ⟨step, taken, inside⟩ := List.mem_flatMap.mp found
  exact each step taken line inside

end Each

end Stagewright.Code
