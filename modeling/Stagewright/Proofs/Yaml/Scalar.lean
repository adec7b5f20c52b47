import Stagewright.Proofs.Attempt
import Stagewright.Yaml.Scalar

/-!
What can be wrong with the text of a scalar. Each kind of scalar has faults of its own, and none of
them is one of the bytes of the document, of its words or of the way its nodes hang together.
-/

namespace Stagewright.Yaml

open Attempt

/-- What can be wrong with text that is to denote a value. -/
def Fault.isOfScalar : Fault → Bool
  | .malformed | .badInteger _ _ | .badFloat _ | .emptyNumber | .badTruth | .badMoment
  | .calendar _ | .longInteger _ | .hugeUnit => true
  | _ => false

/-- Denotes a value, or is at fault as a scalar may be. -/
abbrev Denotes {α : Type} (x : Except Fault α) : Prop :=
  Meets (fun _ => True) (fun f => f.isOfScalar = true) x

theorem denotes_integer (base : Nat) (cs : List Char) : Denotes (integer base cs) :=
  .ite (fun _ => .error rfl) fun _ => .ite (fun _ => .error rfl) fun _ => .ok trivial

theorem denotes_intScalar (text : String) : Denotes (intScalar text) := by
  unfold intScalar
  refine .ite (fun _ => .refuse rfl) fun _ => ?_
  dsimp only
  split
  · exact .refuse rfl
  · exact .pure trivial
  · exact .bind (denotes_integer 2 _) fun _ _ => .pure trivial
  · exact .bind (denotes_integer 16 _) fun _ _ => .pure trivial
  · exact .bind (denotes_integer 8 _) fun _ _ => .pure trivial
  · refine .ite (fun _ => ?_) fun _ => .bind (denotes_integer 10 _) fun _ _ => .pure trivial
    exact .bind (.mapM fun part _ => denotes_integer 10 part) fun _ _ => .pure trivial

theorem denotes_float (cs : List Char) : Denotes (float cs) := by
  unfold float
  refine .ite (fun _ => .ok trivial) fun _ => .ite (fun _ => .ok trivial) fun _ => ?_
  split
  · exact .ok trivial
  · exact .error rfl

theorem denotes_sixtieths (parts : List Binary64) : Denotes (sixtieths parts) :=
  .bind (.foldlM (R := fun _ => True) trivial fun _ _ _ =>
    .ite (fun _ => .throw rfl) fun _ => .pure trivial) fun _ _ => .pure trivial

theorem denotes_floatScalar (index : Nat) (text : String) : Denotes (floatScalar index text) := by
  unfold floatScalar
  refine .ite (fun _ => .refuse rfl) fun _ => ?_
  dsimp only
  refine .ite (fun _ => .pure trivial) fun _ => .ite (fun _ => .pure trivial) fun _ => ?_
  refine .ite (fun _ => ?_) fun _ => .bind (denotes_float _) fun _ _ => .pure trivial
  have sum (parts : List (List Char)) : Denotes (parts.mapM float >>= sixtieths) :=
    .bind (.mapM fun part _ => denotes_float part) fun _ _ => denotes_sixtieths _
  exact .bind (sum _) fun _ _ => .pure trivial

theorem denotes_boolScalar (text : String) : Denotes (boolScalar text) :=
  .ite (fun _ => .ok trivial) fun _ => .ite (fun _ => .ok trivial) fun _ => .error rfl

theorem denotes_momentScalar (text : String) : Denotes (momentScalar text) := by
  unfold momentScalar
  split
  · rename_i m _
    cases m.scalar with
    | ok s => exact .ok trivial
    | error fault => exact .error rfl
  · exact .error rfl

theorem denotes_bytesScalar (text : String) : Denotes (bytesScalar text) := by
  unfold bytesScalar
  refine .ite (fun _ => ?_) fun _ => .error rfl
  split
  · exact .ok trivial
  · exact .error rfl

theorem denotes_scalarValue (tag : Tag) (index : Nat) (text : String) :
    Denotes (scalarValue tag index text) := by
  cases tag with
  | null => exact .ok trivial
  | bool => exact denotes_boolScalar text
  | int => exact denotes_intScalar text
  | float => exact denotes_floatScalar index text
  | binary => exact denotes_bytesScalar text
  | moment => exact denotes_momentScalar text
  | str => exact .ok trivial
  | _ => exact .error rfl

end Stagewright.Yaml
