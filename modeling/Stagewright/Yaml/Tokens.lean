import Stagewright.Yaml.BlockText
import Stagewright.Yaml.PlainText
import Stagewright.Yaml.Property
import Stagewright.Yaml.QuotedText
import Stagewright.Yaml.Source

/-!
The tokens of a document. Indentation is turned into tokens of its own; and since the colon that
makes something a key comes after it, the places where a key may have begun are kept until it is
clear whether one did.
-/

namespace Stagewright.Yaml

/-- A place where a key may have begun: the number of the tokens before it, and whether it must
turn out to be a key. -/
structure KeyPlace where
  number : Nat
  required : Bool
  index : Nat
  line : Nat
  column : Nat
deriving DecidableEq, Repr

structure Lexer where
  cursor : Cursor
  /-- The tokens found so far, the latest first. -/
  found : List Token := []
  count : Nat := 0
  /-- The column of the innermost block, and those of the blocks around it. -/
  indent : Int := -1
  outer : List Int := []
  /-- The number of brackets that are open. -/
  flow : Nat := 0
  /-- Whether a key may begin at the next token. -/
  allowKey : Bool := true
  /-- Places where a key may have begun, at most one for each number of open brackets. -/
  places : List (Nat × KeyPlace) := []

namespace Lexer

def push (l : Lexer) (t : Token) : Lexer := { l with found := t :: l.found, count := l.count + 1 }

/-- Puts a token behind the first `number` ones. -/
def insert (l : Lexer) (number : Nat) (t : Token) : Lexer :=
  let later := l.count - number
  { l with found := l.found.take later ++ t :: l.found.drop later, count := l.count + 1 }

/-- Pushes a token that takes up `length` characters. -/
def take (l : Lexer) (t : Token) (length : Nat) : Lexer :=
  { l with cursor := l.cursor.forward length }.push t

/-- Gives up places that are too far behind for a key. One that had to be a key is a fault. -/
def dropStale (l : Lexer) : Except Fault Lexer :=
  let stale (p : Nat × KeyPlace) : Bool :=
    p.2.line ≠ l.cursor.line || l.cursor.index - p.2.index > 1024
  if l.places.any fun p => stale p && p.2.required then .error .malformed
  else .ok { l with places := l.places.filter (!stale ·) }

/-- Gives up the place at the present number of brackets. -/
def dropPlace (l : Lexer) : Except Fault Lexer :=
  if l.places.any fun p => p.1 = l.flow && p.2.required then .error .malformed
  else .ok { l with places := l.places.filter (·.1 ≠ l.flow) }

/-- Keeps the present place as one where a key may begin. -/
def savePlace (l : Lexer) : Except Fault Lexer :=
  if !l.allowKey then .ok l
  else do
    let l ← l.dropPlace
    let place : KeyPlace := {
      number := l.count
      required := l.flow = 0 && l.indent = l.cursor.column
      index := l.cursor.index
      line := l.cursor.line
      column := l.cursor.column }
    return { l with places := (l.flow, place) :: l.places }

/-- Ends the blocks that are indented further than `column`. -/
def unwind (column : Int) (l : Lexer) : List Int → Lexer
  | [] => l
  | outer :: rest =>
    if l.flow = 0 && l.indent > column then
      unwind column ({ l with indent := outer, outer := rest }.push .blockEnd) rest
    else l

def unwindTo (l : Lexer) (column : Int) : Lexer := unwind column l l.outer

/-- Whether a block at `column` would be a new one. -/
def isDeeper (l : Lexer) (column : Nat) : Bool := l.indent < column

/-- Makes `column` the innermost block. -/
def deepen (l : Lexer) (column : Nat) : Lexer :=
  { l with indent := column, outer := l.indent :: l.outer }

/-- Begins a block at the present column if it is a new one. -/
def beginBlock (l : Lexer) (t : Token) : Lexer :=
  if l.isDeeper l.cursor.column then (l.deepen l.cursor.column).push t else l

/-- The cursor at the next token, and whether a line has ended before it. -/
def skipGap (c : Cursor) : (fuel : Nat) → Cursor × Bool
  | 0 => (c, false)
  | fuel + 1 =>
    let c := c.skipSpaces.skipComment
    if isBreak c.peek then ((skipGap c.lineBreak.2 fuel).1, true) else (c, false)

/-- Goes to the next token. Outside of brackets a key may begin on every new line. -/
def toNext (l : Lexer) : Lexer :=
  let c := l.cursor
  let c := if c.index = 0 && c.peek = '\ufeff' then c.next else c
  let (c, newLine) := skipGap c (c.rest.length + 1)
  { l with cursor := c, allowKey := l.allowKey || (newLine && l.flow = 0) }

/-- Ends all blocks in front of something that belongs to no document. -/
def outside (l : Lexer) : Except Fault Lexer := do
  let l ← (l.unwindTo (-1)).dropPlace
  return { l with allowKey := false }

def documentMark (l : Lexer) (t : Token) : Except Fault Lexer := do
  return (← l.outside).take t 3

def openFlow (l : Lexer) (t : Token) : Except Fault Lexer := do
  let l ← l.savePlace
  return { l with flow := l.flow + 1, allowKey := true }.take t 1

def closeFlow (l : Lexer) (t : Token) : Except Fault Lexer := do
  let l ← l.dropPlace
  if l.flow = 0 then throw .malformed
  return { l with flow := l.flow - 1, allowKey := false }.take t 1

def flowEntry (l : Lexer) : Except Fault Lexer := do
  let l ← { l with allowKey := true }.dropPlace
  return l.take .flowEntry 1

def blockEntry (l : Lexer) : Except Fault Lexer := do
  if l.flow = 0 && !l.allowKey then throw .malformed
  let l := if l.flow = 0 then l.beginBlock .blockSequenceStart else l
  let l ← { l with allowKey := true }.dropPlace
  return l.take .blockEntry 1

def key (l : Lexer) : Except Fault Lexer := do
  if l.flow = 0 && !l.allowKey then throw .malformed
  let l := if l.flow = 0 then l.beginBlock .blockMappingStart else l
  let l ← { l with allowKey := l.flow = 0 }.dropPlace
  return l.take .key 1

/-- A colon. It makes a key of what began at the place that has been kept, if one has. -/
def value (l : Lexer) : Except Fault Lexer := do
  match l.places.find? (·.1 = l.flow) with
  | some (_, place) =>
    let l := { l with places := l.places.filter (·.1 ≠ l.flow) }.insert place.number .key
    let l :=
      if l.flow = 0 && l.isDeeper place.column then
        (l.deepen place.column).insert place.number .blockMappingStart
      else l
    return { l with allowKey := false }.take .value 1
  | none =>
    if l.flow = 0 && !l.allowKey then throw .malformed
    let l := if l.flow = 0 then l.beginBlock .blockMappingStart else l
    let l ← { l with allowKey := l.flow = 0 }.dropPlace
    return l.take .value 1

/-- A token that may be a key, read by `read`. -/
def node {α : Type} (l : Lexer) (read : Cursor → Except Fault (α × Cursor)) (t : α → Token) :
    Except Fault Lexer := do
  let l ← l.savePlace
  let (a, c) ← read l.cursor
  return { l with cursor := c, allowKey := false }.push (t a)

def blockText (l : Lexer) (folded : Bool) : Except Fault Lexer := do
  let l ← { l with allowKey := true }.dropPlace
  let (s, c) ← blockScalar folded l.indent l.cursor
  return { l with cursor := c }.push (.scalar s false)

def plainText (l : Lexer) : Except Fault Lexer := do
  let l ← l.savePlace
  let plain := plainScalar (l.flow ≠ 0) (l.indent + 1) l.cursor
  return { l with cursor := plain.cursor, allowKey := plain.brokeLine }.push
    (.scalar (Text.ofChars plain.text) true)

/-- Whether a plain scalar can begin at the cursor. -/
def canBePlain (l : Lexer) : Bool :=
  let ch := l.cursor.peek
  let begins := !isGapOrEnd ch && !"-?:,[]\x7b\x7d#&*!|>'\"%@\x60".toList.contains ch
  begins || (!isGapOrEnd (l.cursor.peekAt 1) &&
    (ch = '-' || (l.flow = 0 && (ch = '?' || ch = ':'))))

/-- Reads the token at the cursor, which is not the end. -/
def readToken (l : Lexer) : Except Fault Lexer :=
  let c := l.cursor
  let ch := c.peek
  let block := l.flow = 0
  let separate := isGapOrEnd (c.peekAt 1)
  if ch = '%' && c.column = 0 then do
    let l ← l.outside
    let (d, c) ← directiveLine l.cursor
    return { l with cursor := c }.push (.directive d)
  else if c.column = 0 && c.atDocumentMark then
    l.documentMark (if ch = '-' then .documentStart else .documentEnd)
  else if ch = '[' then l.openFlow .flowSequenceStart
  else if ch = '\x7b' then l.openFlow .flowMappingStart
  else if ch = ']' then l.closeFlow .flowSequenceEnd
  else if ch = '\x7d' then l.closeFlow .flowMappingEnd
  else if ch = ',' then l.flowEntry
  else if ch = '-' && separate then l.blockEntry
  else if ch = '?' && (!block || separate) then l.key
  else if ch = ':' && (!block || separate) then l.value
  else if ch = '*' then l.node anchorName .reference
  else if ch = '&' then l.node anchorName .anchor
  else if ch = '!' then l.node tagProperty .tag
  else if ch = '|' && block then l.blockText false
  else if ch = '>' && block then l.blockText true
  else if ch = '\'' then l.node (quotedScalar false) fun s => .scalar s false
  else if ch = '"' then l.node (quotedScalar true) fun s => .scalar s false
  else if l.canBePlain then l.plainText
  else .error .malformed

/-- The tokens that are certain: nothing that comes later can put one in front of them. -/
def certain (l : Lexer) : List Token :=
  match l.dropStale with
  | .error _ => l.found
  | .ok l => l.found.drop (l.count - (l.places.map (·.2.number)).foldl min l.count)

/-- Reads the next token, and says whether it is the last one. -/
@[irreducible] def step (l : Lexer) : Except Fault (Bool × Lexer) := do
  let l ← l.toNext.dropStale
  let l := l.unwindTo l.cursor.column
  if l.cursor.peek = endMark then return (true, (← l.outside).push .streamEnd)
  return (false, ← l.readToken)

/-- Reads tokens up to the end, or up to a fault. Those that are certain before the fault come with
it. -/
def run (l : Lexer) : (fuel : Nat) → List Token × Option Fault
  | 0 => (l.found, none)
  | fuel + 1 =>
    match l.step with
    | .error fault => (l.certain, some fault)
    | .ok (true, last) => (last.found, none)
    | .ok (false, next) => next.run fuel

end Lexer

/-- The tokens of a document, and the fault at which they break off, if there is one. The end of a
text that breaks off is not the end of the document. -/
def tokens (source : Source) : List Token × Option Fault :=
  let l : Lexer := { cursor := { rest := source.text } }
  match l.run (source.text.length + 1), source.ending with
  | (found, some .unfinished), some ending => (found.reverse, some ending)
  | (found, some fault), _ => (found.reverse, some fault)
  | (found, none), some ending => ((found.drop 1).reverse, some ending)
  | (found, none), none => (found.reverse, none)

end Stagewright.Yaml
