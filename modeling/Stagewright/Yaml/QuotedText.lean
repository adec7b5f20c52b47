import Stagewright.Text.Symbol
import Stagewright.Yaml.Cursor
import Stagewright.Yaml.Token

/-!
Scalars in quotes. Between single quotes only the quote itself needs an escape, by being doubled;
between double quotes a backslash introduces an escape. Lines are folded.
-/

namespace Stagewright.Yaml

/-- The value of a hexadecimal digit. -/
def hexValue? (c : Char) : Option Nat :=
  if '0' ≤ c ∧ c ≤ '9' then some (c.toNat - 48)
  else if 'a' ≤ c ∧ c ≤ 'f' then some (c.toNat - 87)
  else if 'A' ≤ c ∧ c ≤ 'F' then some (c.toNat - 55)
  else none

/-- The number that hexadecimal digits stand for. -/
def hexNumber? (cs : List Char) : Option Nat :=
  cs.foldlM (fun n c => (hexValue? c).map (16 * n + ·)) 0

/-- The character that a letter after a backslash stands for. -/
def escapedChar? (c : Char) : Option Char :=
  match c with
  | '0' => some '\x00'
  | 'a' => some '\x07'
  | 'b' => some '\x08'
  | 't' | '\t' => some '\t'
  | 'n' => some '\n'
  | 'v' => some '\x0b'
  | 'f' => some '\x0c'
  | 'r' => some '\r'
  | 'e' => some '\x1b'
  | ' ' | '"' | '\\' | '/' => some c
  | 'N' => some '\x85'
  | '_' => some '\xa0'
  | 'L' => some '\u2028'
  | 'P' => some '\u2029'
  | _ => none

/-- The number of hexadecimal digits that follow a letter after a backslash. -/
def escapeWidth? (c : Char) : Option Nat :=
  match c with
  | 'x' => some 2
  | 'u' => some 4
  | 'U' => some 8
  | _ => none

/-- The symbol with a number. -/
def symbolOfNumber (n : Nat) : Except Fault Text.Symbol :=
  if n > 0x10ffff then .error (.badCharacter (n > 0x7fffffff)) else .ok (.ofNumber n)

/-- Breaks and the white space in front of lines inside quotes. No document may end here. -/
def quotedBreaks (c : Cursor) : (fuel : Nat) → Except Fault (List Char × Cursor)
  | 0 => .ok ([], c)
  | fuel + 1 =>
    if c.atDocumentMark then .error .malformed
    else
      let c := c.skipWhile fun ch => ch = ' ' || ch = '\t'
      if isBreak c.peek then do
        let (text, c) := c.lineBreak
        let (more, c) ← quotedBreaks c fuel
        return (text ++ more, c)
      else .ok ([], c)

/-- The gap between two words inside quotes. -/
def quotedGap (c : Cursor) : Except Fault (List Char × Cursor) :=
  let (spaces, c) := c.span fun ch => ch = ' ' || ch = '\t'
  if c.peek = endMark then .error .unfinished
  else if isBreak c.peek then do
    let (first, c) := c.lineBreak
    let (more, c) ← quotedBreaks c (c.rest.length + 1)
    let start := if first ≠ ['\n'] then first else if more.isEmpty then [' '] else []
    return (start ++ more, c)
  else .ok (spaces, c)

/-- What a backslash and the characters after it stand for; the cursor is behind the backslash. -/
def escape (c : Cursor) : Except Fault (List Char × Cursor) :=
  match escapedChar? c.peek with
  | some ch => .ok ([ch], c.next)
  | none =>
    match escapeWidth? c.peek with
    | some width =>
      let c := c.next
      let digits := c.rest.take width
      match hexNumber? digits with
      | some n =>
        if digits.length < width then .error .malformed
        else do
          let symbol ← symbolOfNumber n
          return (symbol.written, c.forward width)
      | none => .error .malformed
    | none =>
      if isBreak c.peek then
        let (_, c) := c.lineBreak
        quotedBreaks c (c.rest.length + 1)
      else .error .malformed

/-- The text up to the closing quote, and the cursor behind it. -/
def quotedWords (double : Bool) (c : Cursor) : (fuel : Nat) → Except Fault (List Char × Cursor)
  | 0 => .error .malformed
  | fuel + 1 =>
    let ch := c.peek
    let quote := if double then '"' else '\''
    let then_ (part : List Char) (c : Cursor) : Except Fault (List Char × Cursor) := do
      let (more, c) ← quotedWords double c fuel
      return (part ++ more, c)
    if !double && ch = quote && c.peekAt 1 = quote then then_ [quote] (c.forward 2)
    else if ch = quote then .ok ([], c.next)
    else if double && ch = '\\' then do
      let (part, c) ← escape c.next
      then_ part c
    else if isGapOrEnd ch then do
      let (part, c) ← quotedGap c
      then_ part c
    else then_ (Text.Symbol.char ch).written c.next

/-- The scalar whose opening quote is at the cursor. -/
def quotedScalar (double : Bool) (c : Cursor) : Except Fault (String × Cursor) := do
  let (cs, c) ← quotedWords double c.next (c.rest.length + 1)
  return (String.ofList cs, c)

end Stagewright.Yaml
