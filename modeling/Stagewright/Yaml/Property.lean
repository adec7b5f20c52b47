import Stagewright.Text.Utf8
import Stagewright.Yaml.Cursor
import Stagewright.Yaml.QuotedText
import Stagewright.Yaml.Token

/-!
What is said about a node besides its content: its anchor and its tag. The directives that say what
tags stand for are written alike.
-/

namespace Stagewright.Yaml

/-- Characters of the text of a tag, those of escapes included. -/
def isTagChar (c : Char) : Bool :=
  c.isAlphanum || "-;/?:@&=+$,_.!~*'()[]%".toList.contains c

/-- Bytes that are written as a percent sign and two hexadecimal digits each. -/
def tagBytes (c : Cursor) : (fuel : Nat) → Except Fault (List UInt8 × Cursor)
  | 0 => .ok ([], c)
  | fuel + 1 =>
    if c.peek = '%' then
      match hexValue? (c.peekAt 1), hexValue? (c.peekAt 2) with
      | some high, some low => do
        let (more, c) ← tagBytes (c.forward 3) fuel
        return ((16 * high + low).toUInt8 :: more, c)
      | _, _ => .error .malformed
    else .ok ([], c)

/-- The text of a tag from here on. Escaped bytes that stand together form characters. -/
def tagChars (c : Cursor) : (fuel : Nat) → Except Fault (List Char × Cursor)
  | 0 => .ok ([], c)
  | fuel + 1 =>
    if c.peek = '%' then do
      let (bytes, c) ← tagBytes c (c.rest.length + 1)
      let some cs := Text.decodeUtf8? bytes | throw .malformed
      let (more, c) ← tagChars c fuel
      return (cs ++ more, c)
    else if isTagChar c.peek then do
      let ch := c.peek
      let (more, c) ← tagChars c.next fuel
      return (ch :: more, c)
    else .ok ([], c)

/-- The text of a tag, which is not empty. -/
def tagUri (c : Cursor) : Except Fault (String × Cursor) := do
  let (cs, after) ← tagChars c (c.rest.length + 1)
  if after.index = c.index then throw .malformed
  return (String.ofList cs, after)

/-- The handle of a tag: an exclamation mark, or a name between two of them. -/
def tagHandle (c : Cursor) : Except Fault (String × Cursor) :=
  if c.peek ≠ '!' then .error .malformed
  else if c.peekAt 1 = ' ' then .ok ("!", c.next)
  else
    let (name, after) := c.next.span isNameChar
    if after.peek = '!' then .ok (String.ofList ('!' :: name ++ ['!']), after.next)
    else .error .malformed

/-- The tag at the cursor: one in angle brackets, a lone mark, or a handle with a text. -/
def tagProperty (c : Cursor) : Except Fault (TagText × Cursor) := do
  let (tag, c) ←
    if c.peekAt 1 = '<' then do
      let (suffix, c) ← tagUri (c.forward 2)
      if c.peek ≠ '>' then throw .malformed
      pure (TagText.mk none suffix, c.next)
    else if isGapOrEnd (c.peekAt 1) then pure (TagText.mk none "!", c.next)
    else do
      let handled := ((c.rest.drop 1).takeWhile (!isSpaceOrEnd ·)).contains '!'
      let (handle, c) ← if handled then tagHandle c else pure ("!", c.next)
      let (suffix, c) ← tagUri c
      pure (TagText.mk (some handle) suffix, c)
  if isSpaceOrEnd c.peek then return (tag, c) else throw .malformed

/-- The name behind the mark of an anchor or of an alias. -/
def anchorName (c : Cursor) : Except Fault (String × Cursor) :=
  let (name, c) := c.next.span isNameChar
  if name.isEmpty then .error .malformed
  else if isGapOrEnd c.peek || "?:,]\x7d%@\x60".toList.contains c.peek then
    .ok (String.ofList name, c)
  else .error .malformed

/-- A number of a version. -/
def versionNumber (c : Cursor) : Except Fault (Nat × Cursor) :=
  let (digits, c) := c.span Char.isDigit
  if digits.isEmpty then .error .malformed
  else if digits.length > Excess.mostDigits then .error (.longInteger digits.length)
  else .ok (digits.foldl (fun n d => 10 * n + (d.toNat - 48)) 0, c)

/-- The directive at the cursor, and the line it stands on. -/
def directiveLine (c : Cursor) : Except Fault (Directive × Cursor) := do
  let (name, c) := c.next.span isNameChar
  if name.isEmpty || !isSpaceOrEnd c.peek then throw .malformed
  let (directive, c) ← match String.ofList name with
    | "YAML" => do
      let (major, c) ← versionNumber c.skipSpaces
      if c.peek ≠ '.' then throw .malformed
      let (minor, c) ← versionNumber c.next
      if !isSpaceOrEnd c.peek then throw .malformed
      pure (Directive.version major minor, c)
    | "TAG" => do
      let (handle, c) ← tagHandle c.skipSpaces
      if c.peek ≠ ' ' then throw .malformed
      let (beginning, c) ← tagUri c.skipSpaces
      if !isSpaceOrEnd c.peek then throw .malformed
      pure (Directive.tag handle beginning, c)
    | _ => pure (Directive.other, c.skipWhile (!isBreakOrEnd ·))
  let c := c.skipSpaces.skipComment
  if isBreakOrEnd c.peek then return (directive, c.lineBreak.2) else throw .malformed

end Stagewright.Yaml
