import Stagewright.Proofs.Code.Position

/-!
Code with annotations: the same lines in the same order and at the same depths, and between them
lines that only report what happens.
-/

namespace Stagewright.Code

/-- The lines that tell whose connection a stage has been handed: only if there is one, and only if
it can tell. -/
def diagnostic (names : Names) (level message : String) (args : List Expr) : Code :=
  block (.whenPresent names.conn)
    (ofStatements [.bind names.metadata (.metadataOf names.conn)] ++
      block (.whenPresent names.metadata) (ofStatements [.log level message args]))

/-- The second code is the first with messages, hand-overs of the log to the pool and whole
diagnostics put in between. -/
inductive Annotated (names : Names) : Code → Code → Prop
  | nil : Annotated names [] []
  | keep {a b : Code} (line : Line) : Annotated names a b → Annotated names (line :: a) (line :: b)
  | log {a b : Code} (depth : Nat) (level message : String) (args : List Expr) :
      Annotated names a b → Annotated names a (⟨depth, .log level message args⟩ :: b)
  | poolLog {a b : Code} (depth : Nat) (label : String) :
      Annotated names a b → Annotated names a (⟨depth, .initPoolLog label⟩ :: b)
  | diagnostic {a b : Code} (depth : Nat) (level message : String) (args : List Expr) :
      Annotated names a b →
        Annotated names a ((Code.diagnostic names level message args).deeper depth ++ b)

namespace Annotated

variable {names : Names} {a b c d : Code}

theorem refl (code : Code) : Annotated names code code := by
  induction code with
  | nil => exact .nil
  | cons line code ih => exact .keep line ih

theorem append (first : Annotated names a b) (second : Annotated names c d) :
    Annotated names (a ++ c) (b ++ d) := by
  induction first with
  | nil => exact second
  | keep line _ ih => exact .keep line ih
  | log depth level message args _ ih => exact .log depth level message args ih
  | poolLog depth label _ ih => exact .poolLog depth label ih
  | diagnostic depth level message args _ ih =>
    rw [List.append_assoc]
    exact .diagnostic depth level message args ih

theorem deeper (annotated : Annotated names a b) (more : Nat) :
    Annotated names (a.deeper more) (b.deeper more) := by
  induction annotated with
  | nil => exact .nil
  | keep line _ ih => exact .keep (line.deeper more) ih
  | log depth level message args _ ih => exact .log (more + depth) level message args ih
  | poolLog depth label _ ih => exact .poolLog (more + depth) label ih
  | diagnostic depth level message args _ ih =>
    rw [deeper_append, deeper_deeper]
    exact .diagnostic (more + depth) level message args ih

theorem block (header : Statement) (body : Annotated names a b) :
    Annotated names (Code.block header a) (Code.block header b) :=
  .keep ⟨0, header⟩ (body.deeper 1)

theorem ite {p : Prop} [Decidable p] (yes : p → Annotated names a b)
    (no : ¬p → Annotated names c d) :
    Annotated names (if p then a else c) (if p then b else d) := by
  split
  · exact yes ‹_›
  · exact no ‹_›

/-- Nothing is lost or moved. -/
theorem sublist (annotated : Annotated names a b) : a.Sublist b := by
  induction annotated with
  | nil => exact .slnil
  | keep line _ ih => exact ih.cons_cons line
  | log _ _ _ _ _ ih => exact ih.cons _
  | poolLog _ _ _ ih => exact ih.cons _
  | diagnostic _ _ _ _ _ ih => exact List.sublist_append_of_sublist_right ih

end Annotated

end Stagewright.Code
