import Stagewright.Proofs.Attempt
import Stagewright.Yaml.BlockText
import Stagewright.Yaml.Property

/-!
What can go wrong while the words of a document are read: scalars in quotes and in blocks, tags,
anchors and directives. All of it shows in the text itself.
-/

namespace Stagewright.Yaml

open Attempt

/-- What can be wrong with a piece of text: that it is no YAML, or that it asks for a character or a
number that there is none of. -/
def Fault.isLexical : Fault → Bool
  | .malformed | .unfinished | .badCharacter _ | .longInteger _ => true
  | _ => false

/-- Nothing else goes wrong. -/
abbrev Lexical {α : Type} (x : Except Fault α) : Prop :=
  Meets (fun _ => True) (fun f => f.isLexical = true) x

theorem lexical_quotedBreaks (fuel : Nat) (c : Cursor) : Lexical (quotedBreaks c fuel) := by
  induction fuel generalizing c with
  | zero => exact .ok trivial
  | succ fuel ih =>
    rw [quotedBreaks]
    refine .ite (fun _ => .error rfl) fun _ => .ite (fun _ => ?_) fun _ => .ok trivial
    exact .bind (ih _) fun _ _ => .pure trivial

theorem lexical_quotedGap (c : Cursor) : Lexical (quotedGap c) := by
  unfold quotedGap
  refine .ite (fun _ => .error rfl) fun _ => .ite (fun _ => ?_) fun _ => .ok trivial
  exact .bind (lexical_quotedBreaks _ _) fun _ _ => .pure trivial

theorem lexical_escape (c : Cursor) : Lexical (escape c) := by
  unfold escape
  split
  · exact .ok trivial
  · split
    · dsimp only
      split
      · have symbol (n : Nat) : Lexical (symbolOfNumber n) :=
          .ite (fun _ => .error rfl) fun _ => .ok trivial
        exact .ite (fun _ => .error rfl) fun _ => .bind (symbol _) fun _ _ => .pure trivial
      · exact .error rfl
    · exact .ite (fun _ => lexical_quotedBreaks _ _) fun _ => .error rfl

theorem lexical_quotedWords (double : Bool) (fuel : Nat) (c : Cursor) :
    Lexical (quotedWords double c fuel) := by
  induction fuel generalizing c with
  | zero => exact .error rfl
  | succ fuel ih =>
    rw [quotedWords]
    refine .ite (fun _ => .bind (ih _) fun _ _ => .pure trivial) fun _ =>
      .ite (fun _ => .ok trivial) fun _ => .ite (fun _ => ?escaped) fun _ =>
        .ite (fun _ => ?gap) fun _ => .bind (ih _) fun _ _ => .pure trivial
    case escaped =>
      exact .bind (lexical_escape _) fun _ _ => .bind (ih _) fun _ _ => .pure trivial
    case gap =>
      exact .bind (lexical_quotedGap _) fun _ _ => .bind (ih _) fun _ _ => .pure trivial

theorem lexical_quotedScalar (double : Bool) (c : Cursor) : Lexical (quotedScalar double c) :=
  .bind (lexical_quotedWords double _ _) fun _ _ => .pure trivial

theorem lexical_tagBytes (fuel : Nat) (c : Cursor) : Lexical (tagBytes c fuel) := by
  induction fuel generalizing c with
  | zero => exact .ok trivial
  | succ fuel ih =>
    rw [tagBytes]
    refine .ite (fun _ => ?_) fun _ => .ok trivial
    split
    · exact .bind (ih _) fun _ _ => .pure trivial
    · exact .error rfl

theorem lexical_tagChars (fuel : Nat) (c : Cursor) : Lexical (tagChars c fuel) := by
  induction fuel generalizing c with
  | zero => exact .ok trivial
  | succ fuel ih =>
    rw [tagChars]
    refine .ite (fun _ => .bind (lexical_tagBytes _ _) fun (bytes, c) _ => ?_) fun _ =>
      .ite (fun _ => .bind (ih _) fun _ _ => .pure trivial) fun _ => .ok trivial
    dsimp only
    split
    · exact .bind (ih _) fun _ _ => .pure trivial
    · exact .throw rfl

theorem lexical_tagUri (c : Cursor) : Lexical (tagUri c) :=
  .bind (lexical_tagChars _ _) fun _ _ => .ite (fun _ => .refuse rfl) fun _ => .pure trivial

theorem lexical_tagHandle (c : Cursor) : Lexical (tagHandle c) :=
  .ite (fun _ => .error rfl) fun _ => .ite (fun _ => .ok trivial) fun _ =>
    .ite (fun _ => .ok trivial) fun _ => .error rfl

theorem lexical_tagProperty (c : Cursor) : Lexical (tagProperty c) := by
  have ending (tag : TagText) (c : Cursor) : Lexical (
      if isSpaceOrEnd c.peek then pure (tag, c) else throw Fault.malformed) :=
    .ite (fun _ => .pure trivial) fun _ => .throw rfl
  unfold tagProperty
  refine .ite (fun _ => ?full) fun _ => .ite (fun _ => ending _ _) fun _ =>
    .ite (fun _ => ?handled) fun _ => ?unhandled
  case full =>
    exact .bind (lexical_tagUri _) fun _ _ => .ite (fun _ => .refuse rfl) fun _ => ending _ _
  case handled =>
    exact .bind (lexical_tagHandle _) fun _ _ => .bind (lexical_tagUri _) fun _ _ => ending _ _
  case unhandled =>
    refine .bind (Q := fun _ => True) (.pure trivial) fun _ _ => ?_
    exact .bind (lexical_tagUri _) fun _ _ => ending _ _

theorem lexical_anchorName (c : Cursor) : Lexical (anchorName c) :=
  .ite (fun _ => .error rfl) fun _ => .ite (fun _ => .ok trivial) fun _ => .error rfl

theorem lexical_versionNumber (c : Cursor) : Lexical (versionNumber c) :=
  .ite (fun _ => .error rfl) fun _ => .ite (fun _ => .error rfl) fun _ => .ok trivial

theorem lexical_directiveLine (c : Cursor) : Lexical (directiveLine c) := by
  have ending (read : Directive × Cursor) : Lexical (
      if isBreakOrEnd read.2.skipSpaces.skipComment.peek then
        pure (read.1, read.2.skipSpaces.skipComment.lineBreak.2)
      else throw Fault.malformed) :=
    .ite (fun _ => .pure trivial) fun _ => .throw rfl
  unfold directiveLine
  refine .ite (fun _ => .refuse rfl) fun _ => ?_
  split
  · refine .bind (lexical_versionNumber _) fun _ _ => .ite (fun _ => .refuse rfl) fun _ => ?_
    refine .bind (lexical_versionNumber _) fun _ _ => .ite (fun _ => .refuse rfl) fun _ => ?_
    exact .bind (Q := fun _ => True) (.pure trivial) fun read _ => ending read
  · refine .bind (lexical_tagHandle _) fun _ _ => .ite (fun _ => .refuse rfl) fun _ => ?_
    refine .bind (lexical_tagUri _) fun _ _ => .ite (fun _ => .refuse rfl) fun _ => ?_
    exact .bind (Q := fun _ => True) (.pure trivial) fun read _ => ending read
  · exact .bind (Q := fun _ => True) (.pure trivial) fun read _ => ending read

theorem lexical_blockIncrement (c : Cursor) : Lexical (blockIncrement c) :=
  .ite (fun _ => .ok trivial) fun _ => .ite (fun _ => .error rfl) fun _ => .ok trivial

theorem lexical_blockHead (c : Cursor) : Lexical (blockHead c) := by
  have ending (head : BlockHead) (c : Cursor) : Lexical (
      if isSpaceOrEnd c.peek then pure (head, c) else throw Fault.malformed) :=
    .ite (fun _ => .pure trivial) fun _ => .throw rfl
  unfold blockHead
  split
  · exact .bind (lexical_blockIncrement _) fun _ _ => ending _ _
  · refine .bind (lexical_blockIncrement _) fun _ _ => ?_
    dsimp only
    split
    · exact ending _ _
    · exact ending _ _

theorem lexical_ignoredLine (c : Cursor) : Lexical (ignoredLine c) :=
  .ite (fun _ => .ok trivial) fun _ => .error rfl

theorem lexical_blockScalar (folded : Bool) (parent : Int) (c : Cursor) :
    Lexical (blockScalar folded parent c) :=
  .bind (lexical_blockHead _) fun _ _ => .bind (lexical_ignoredLine _) fun _ _ => .pure trivial

end Stagewright.Yaml
