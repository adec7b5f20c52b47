/-!
Reading a document character by character, with the place in it. The documents are those of YAML
1.1; the end of the text reads as the character zero, which no document contains.
-/

namespace Stagewright.Yaml

/-- What is left of a document, and the place it begins at. -/
structure Cursor where
  rest : List Char
  index : Nat := 0
  line : Nat := 0
  column : Nat := 0
deriving DecidableEq, Repr

def endMark : Char := '\x00'

/-- Characters that end a line. -/
def isBreak (c : Char) : Bool := c = '\n' || c = '\r' || c = '\x85' || c = '\u2028' || c = '\u2029'

def isBreakOrEnd (c : Char) : Bool := isBreak c || c = endMark

def isSpaceOrEnd (c : Char) : Bool := c = ' ' || isBreakOrEnd c

/-- Characters that end a word. -/
def isGapOrEnd (c : Char) : Bool := c = '\t' || isSpaceOrEnd c

/-- Characters of names. -/
def isNameChar (c : Char) : Bool := c.isAlphanum || c = '-' || c = '_'

namespace Cursor

/-- The character `n` places ahead. -/
def peekAt (c : Cursor) (n : Nat) : Char := c.rest[n]?.getD endMark

def peek (c : Cursor) : Char := c.rest.headD endMark

/-- The cursor one character on. The mark of byte order takes up no column. -/
def next (c : Cursor) : Cursor :=
  match c.rest with
  | [] => c
  | ch :: rest =>
    if isBreak ch && !(ch = '\r' && rest.head? = some '\n') then
      ⟨rest, c.index + 1, c.line + 1, 0⟩
    else ⟨rest, c.index + 1, c.line, if ch = '\ufeff' then c.column else c.column + 1⟩

def forward (c : Cursor) : Nat → Cursor
  | 0 => c
  | n + 1 => c.next.forward n

/-- The characters up to the first for which `p` fails, and the cursor behind them. -/
def span (c : Cursor) (p : Char → Bool) : List Char × Cursor :=
  let cs := c.rest.takeWhile p
  (cs, c.forward cs.length)

/-- The cursor behind the characters for which `p` holds. -/
def skipWhile (c : Cursor) (p : Char → Bool) : Cursor := (c.span p).2

def skipSpaces (c : Cursor) : Cursor := c.skipWhile (· = ' ')

/-- The cursor at the end of a comment, if one begins here. -/
def skipComment (c : Cursor) : Cursor :=
  if c.peek = '#' then c.skipWhile (!isBreakOrEnd ·) else c

/-- A line break if there is one, with the text it stands for. All breaks but the separators of
lines and paragraphs are newlines. -/
def lineBreak (c : Cursor) : List Char × Cursor :=
  let ch := c.peek
  if ch = '\r' && c.peekAt 1 = '\n' then (['\n'], c.forward 2)
  else if ch = '\r' || ch = '\n' || ch = '\x85' then (['\n'], c.next)
  else if isBreak ch then ([ch], c.next)
  else ([], c)

/-- Whether three dashes or three dots that delimit documents stand here. -/
def atDocumentMark (c : Cursor) : Bool :=
  ((c.rest.take 3 = ['-', '-', '-']) || (c.rest.take 3 = ['.', '.', '.'])) &&
    isGapOrEnd (c.peekAt 3)

end Cursor

end Stagewright.Yaml
