import Stagewright.Yaml.Cursor
import Stagewright.Yaml.Token

/-!
Scalars without quotes. Lines are folded: a single break between two lines is a space, and each
further one a newline.
-/

namespace Stagewright.Yaml

/-- Whether a plain scalar ends at the character `c` that `following` comes after. Inside brackets
the characters that structure them end it too. -/
def endsPlain (flow : Bool) (c following : Char) : Bool :=
  let structural (c : Char) : Bool := c = ',' || c = '[' || c = ']' || c = '\x7b' || c = '\x7d'
  isGapOrEnd c || (c = ':' && (isGapOrEnd following || (flow && structural following))) ||
    (flow && (structural c || c = '?'))

/-- The characters up to the end of a plain scalar on this line. -/
def plainWord (flow : Bool) : List Char → List Char
  | [] => []
  | c :: rest => if endsPlain flow c (rest.headD endMark) then [] else c :: plainWord flow rest

/-- The breaks after the first one, with spaces between them. Where a document ends there is no
more of the scalar. -/
def plainBreaks (c : Cursor) : (fuel : Nat) → Option (List Char) × Cursor
  | 0 => (some [], c)
  | fuel + 1 =>
    if c.peek = ' ' then plainBreaks c.next fuel
    else if isBreak c.peek then
      let (text, c) := c.lineBreak
      if c.atDocumentMark then (none, c)
      else
        let (more, c) := plainBreaks c fuel
        (more.map (text ++ ·), c)
    else (some [], c)

/-- The gap between two words of a plain scalar: its text, whether it breaks the line, and the
cursor behind it. There is no text where the scalar ends. -/
def plainGap (c : Cursor) : List Char × Bool × Cursor :=
  let (spaces, c) := c.span (· = ' ')
  if isBreak c.peek then
    let (first, c) := c.lineBreak
    if c.atDocumentMark then ([], true, c)
    else
      match plainBreaks c c.rest.length with
      | (none, c) => ([], true, c)
      | (some more, c) =>
        let start := if first ≠ ['\n'] then first else if more.isEmpty then [' '] else []
        (start ++ more, true, c)
  else (spaces, false, c)

/-- A plain scalar that has been read. -/
structure Plain where
  text : List Char
  cursor : Cursor
  /-- Whether the cursor has been moved to another line after the last word. -/
  brokeLine : Bool

/-- The words of a plain scalar from here on. Continuation lines outside of brackets must be
indented by `indent` columns. -/
def plainWords (flow : Bool) (indent : Int) (gap : List Char) (broke : Bool) (c : Cursor) :
    (fuel : Nat) → Plain
  | 0 => ⟨[], c, broke⟩
  | fuel + 1 =>
    let word := if c.peek = '#' then [] else plainWord flow c.rest
    if word.isEmpty then ⟨[], c, broke⟩
    else
      let (next, broke, after) := plainGap (c.forward word.length)
      if next.isEmpty || after.peek = '#' || (!flow && (after.column : Int) < indent) then
        ⟨gap ++ word, after, broke⟩
      else
        let rest := plainWords flow indent next broke after fuel
        ⟨gap ++ word ++ rest.text, rest.cursor, rest.brokeLine⟩

/-- The plain scalar at the cursor. -/
def plainScalar (flow : Bool) (indent : Int) (c : Cursor) : Plain :=
  plainWords flow indent [] false c (c.rest.length + 1)

end Stagewright.Yaml
