import Stagewright.Text.Symbol
import Stagewright.Yaml.Cursor
import Stagewright.Yaml.Token

/-!
Scalars in a block of their own lines. In a literal block each line keeps its break; in a folded
one a break between two lines of words is a space.
-/

namespace Stagewright.Yaml

/-- What becomes of the breaks at the end of a block. -/
inductive Chomping where
  | strip
  | clip
  | keep
deriving DecidableEq, Repr

/-- The signs at the head of a block: what to do at its end, and by how much it is indented. -/
structure BlockHead where
  chomping : Chomping
  increment : Option Nat
deriving DecidableEq, Repr

def chompingOf? (c : Char) : Option Chomping :=
  if c = '+' then some .keep else if c = '-' then some .strip else none

/-- An increment at the cursor, if there is one. It cannot be zero. -/
def blockIncrement (c : Cursor) : Except Fault (Option Nat × Cursor) :=
  let ch := c.peek
  if !ch.isDigit then .ok (none, c)
  else if ch = '0' then .error .malformed
  else .ok (some (ch.toNat - 48), c.next)

/-- The signs behind the indicator of a block, in either order. -/
def blockHead (c : Cursor) : Except Fault (BlockHead × Cursor) := do
  let (head, c) ← match chompingOf? c.peek with
    | some chomping => do
      let (increment, c) ← blockIncrement c.next
      pure (BlockHead.mk chomping increment, c)
    | none => do
      let (increment, c) ← blockIncrement c
      match increment, chompingOf? c.peek with
      | some n, some chomping => pure (BlockHead.mk chomping (some n), c.next)
      | increment, _ => pure (BlockHead.mk .clip increment, c)
  if isSpaceOrEnd c.peek then return (head, c) else throw .malformed

/-- The rest of a line that may hold nothing but a comment. -/
def ignoredLine (c : Cursor) : Except Fault (Unit × Cursor) :=
  let c := c.skipSpaces.skipComment
  if isBreakOrEnd c.peek then .ok ((), c.lineBreak.2) else .error .malformed

/-- Blank lines at the head of a block, and the widest of their indentations. -/
def blockMargin (c : Cursor) (widest : Nat) : (fuel : Nat) → List Char × Nat × Cursor
  | 0 => ([], widest, c)
  | fuel + 1 =>
    if c.peek = ' ' then
      let c := c.next
      blockMargin c (max widest c.column) fuel
    else if isBreak c.peek then
      let (text, c) := c.lineBreak
      let (more, widest, c) := blockMargin c widest fuel
      (text ++ more, widest, c)
    else ([], widest, c)

/-- The cursor in front of a line of a block, behind its indentation as far as it goes. -/
def skipIndent (indent : Nat) (c : Cursor) : Cursor :=
  c.forward (min (indent - c.column) (c.rest.takeWhile (· = ' ')).length)

/-- Blank lines inside a block. -/
def blockBreaks (indent : Nat) (c : Cursor) : (fuel : Nat) → List Char × Cursor
  | 0 => ([], c)
  | fuel + 1 =>
    let c := skipIndent indent c
    if isBreak c.peek then
      let (text, c) := c.lineBreak
      let (more, c) := blockBreaks indent c fuel
      (text ++ more, c)
    else ([], c)

/-- The lines of a block from here on. `breaks` are the blank lines in front of them, and `last`
the break at the end of the line before those. -/
def blockLines (folded : Bool) (chomping : Chomping) (indent : Nat) (breaks last : List Char)
    (c : Cursor) : (fuel : Nat) → List Char × Cursor
  | 0 => ([], c)
  | fuel + 1 =>
    if c.column = indent && c.peek ≠ endMark then
      let wordFirst := c.peek ≠ ' ' && c.peek ≠ '\t'
      let (line, c) := c.span (!isBreakOrEnd ·)
      let (last, c) := c.lineBreak
      let (after, c) := blockBreaks indent c (c.rest.length + 1)
      let joint :=
        if c.column = indent && c.peek ≠ endMark then
          if folded && last = ['\n'] && wordFirst && c.peek ≠ ' ' && c.peek ≠ '\t' then
            if after.isEmpty then [' '] else []
          else last
        else []
      let (more, c) := blockLines folded chomping indent after last c fuel
      (breaks ++ line ++ joint ++ more, c)
    else
      ((if chomping = .strip then [] else last) ++ (if chomping = .keep then breaks else []), c)

/-- The scalar whose indicator is at the cursor, in a collection that is indented by `parent`. -/
def blockScalar (folded : Bool) (parent : Int) (c : Cursor) : Except Fault (String × Cursor) := do
  let (head, c) ← blockHead c.next
  let (_, c) ← ignoredLine c
  let least := (max (parent + 1) 1).toNat
  let fuel := c.rest.length + 1
  let (indent, breaks, c) := match head.increment with
    | none =>
      let (breaks, widest, c) := blockMargin c 0 fuel
      (max least widest, breaks, c)
    | some n =>
      let indent := least + n - 1
      let (breaks, c) := blockBreaks indent c fuel
      (indent, breaks, c)
  let (cs, c) := blockLines folded head.chomping indent breaks [] c fuel
  return (Text.ofChars cs, c)

end Stagewright.Yaml
