import Stagewright.Console.CellTable
import Stagewright.Text.Runs

/-!
The cells that text takes up on a console. Control characters and marks that are drawn over another
character take up none, and the characters of East Asian scripts and most pictures take up two.
-/

namespace Stagewright.Console

/-- The number of cells of a character on its own. -/
def cells (c : Char) : Nat :=
  if 32 ≤ c.toNat && c.toNat < 127 then 1
  else if Text.memRuns zeroRuns c then 0
  else if Text.memRuns wideRuns c then 2
  else 1

/-- Joins the character after it to the one before it. -/
def joiner : Char := '\u200d'

/-- Asks for the coloured form of the character before it. -/
def selector : Char := '\ufe0f'

/-- The number of cells of characters, where `last` is the last one before them that took up any.
A character that is joined to another takes up none. -/
def cellsAfter (last : Option Char) : List Char → Nat
  | [] => 0
  | c :: rest =>
    if c = joiner then
      match rest with
      | [] => 0
      | _ :: rest => cellsAfter last rest
    else if c = selector then
      (if last.any (Text.memRuns widenedRuns) then 1 else 0) + cellsAfter none rest
    else
      let n := cells c
      n + cellsAfter (if n = 0 then last else some c) rest

/-- The number of cells of characters. -/
def cellLength (cs : List Char) : Nat := cellsAfter none cs

/-- Characters that are not parted from each other, and the number of cells that they take up. -/
structure Grapheme where
  text : List Char
  cells : Nat
deriving DecidableEq, Repr

/-- The graphemes of characters, where `grown` is the one before them and `last` the last character
before them that took up cells. What takes up no cells belongs to the grapheme before it. -/
def graphemesAfter (grown : Grapheme) (last : Option Char) : List Char → List Grapheme
  | [] => [grown]
  | c :: rest =>
    if c = joiner then
      match rest with
      | [] => [⟨grown.text ++ [c], grown.cells⟩]
      | joined :: rest => graphemesAfter ⟨grown.text ++ [c, joined], grown.cells⟩ last rest
    else if c = selector then
      let wider := if last.any (Text.memRuns widenedRuns) then 1 else 0
      graphemesAfter ⟨grown.text ++ [c], grown.cells + wider⟩ none rest
    else
      let n := cells c
      if n = 0 then graphemesAfter ⟨grown.text ++ [c], grown.cells⟩ last rest
      else grown :: graphemesAfter ⟨[c], n⟩ (some c) rest

/-- The graphemes of characters. The first one joins nothing to itself. -/
def graphemes : List Char → List Grapheme
  | [] => []
  | c :: rest => graphemesAfter ⟨[c], cells c⟩ (if cells c = 0 then none else some c) rest

/-- The characters of as many graphemes as `room` cells hold. A cell that half of a grapheme would
take up is left blank. -/
def croppedTo (room : Nat) : List Grapheme → List Char
  | [] => []
  | g :: rest =>
    if room = 0 then []
    else if g.cells ≤ room then g.text ++ croppedTo (room - g.cells) rest
    else [' ']

/-- Characters cut to a number of cells. -/
def cropped (room : Nat) (cs : List Char) : List Char := croppedTo room (graphemes cs)

/-- Graphemes in lines of at most `width` cells each, where `room` are left on the first line. -/
def choppedAt (width room : Nat) : List Grapheme → List (List Char)
  | [] => [[]]
  | g :: rest =>
    if g.cells ≤ room then
      match choppedAt width (room - g.cells) rest with
      | line :: lines => (g.text ++ line) :: lines
      | [] => [g.text]
    else
      match choppedAt width (width - g.cells) rest with
      | line :: lines => [] :: (g.text ++ line) :: lines
      | [] => [[], g.text]

/-- Characters in lines of at most `width` cells each. -/
def chopped (width : Nat) (cs : List Char) : List (List Char) :=
  choppedAt width width (graphemes cs)

/-- Characters filled up with spaces to a number of cells. -/
def padded (width : Nat) (cs : List Char) : List Char :=
  cs ++ List.replicate (width - cellLength cs) ' '

end Stagewright.Console
