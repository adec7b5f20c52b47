import Stagewright.Console.Cells
import Stagewright.Text.Blank
import Stagewright.Text.Lines

/-!
Text on lines of a limited width. Tabs are filled up, lines are broken between words, and what is
left over at the end of a line is taken away. A word that is longer than a line is folded, or cut.
-/

namespace Stagewright.Console

/-- Control characters that leave no trace on a console. -/
def isTraceless (c : Char) : Bool :=
  c = '\x07' || c = '\x08' || c = '\x0b' || c = '\x0c' || c = '\r'

/-- What becomes of a word that is longer than a line. -/
inductive Overflow where
  | fold
  | ellipsis
deriving DecidableEq, Repr

/-- Characters of a line with tabs filled up to the next multiple of eight cells. `part` are the
characters since the last tab, which ended at `column`, the latest first. A tab is a space at
least, which may be joined to the character before it. -/
def expandTabs (column : Nat) (part : List Char) : List Char → List Char
  | [] => part.reverse
  | '\t' :: rest =>
    let part := (' ' :: part).reverse
    let column := column + cellLength part
    let missing := (8 - column % 8) % 8
    part ++ List.replicate missing ' ' ++ expandTabs (column + missing) [] rest
  | c :: rest => expandTabs column (c :: part) rest

/-- A word and the white space behind it; in front of the first word white space belongs to it. -/
structure Word where
  text : List Char
  gap : List Char
deriving DecidableEq, Repr

/-- The words of a line. -/
def words (fuel : Nat) (cs : List Char) : List Word :=
  match fuel with
  | 0 => []
  | fuel + 1 =>
    let front := cs.takeWhile Text.isBlank
    let rest := cs.drop front.length
    let word := rest.takeWhile (!Text.isBlank ·)
    let rest := rest.drop word.length
    let gap := rest.takeWhile Text.isBlank
    if word.isEmpty then [] else ⟨front ++ word, gap⟩ :: words fuel (rest.drop gap.length)

/-- The places at which a line is broken: the first of the words given begins at `start`, and
`offset` cells of the line are taken. -/
def breaks (width : Nat) (overflow : Overflow) (start offset : Nat) : List Word → List Nat
  | [] => []
  | ⟨text, gap⟩ :: rest =>
    let next := start + text.length + gap.length
    let length := cellLength text
    let full := cellLength (text ++ gap)
    let before := if start = 0 then [] else [start]
    if offset + length ≤ width then breaks width overflow next (offset + full) rest
    else if length > width then
      match overflow with
      | .fold =>
        let lines := chopped width (text ++ gap)
        let inner := (lines.dropLast.foldl (fun (places, place) line =>
          (places ++ [place + line.length], place + line.length)) ([], start)).1
        before ++ inner ++
          breaks width overflow next (cellLength (lines.getLast?.getD [])) rest
      | .ellipsis => before ++ breaks width overflow next full rest
    else if offset ≠ 0 && start ≠ 0 then start :: breaks width overflow next full rest
    else breaks width overflow next offset rest

/-- Characters divided at places, which are given from the first on. -/
def dividedAt (start : Nat) (cs : List Char) : List Nat → List (List Char)
  | [] => [cs]
  | place :: places =>
    cs.take (place - start) :: dividedAt place (cs.drop (place - start)) places

/-- A line without the white space at its end that goes beyond `width` characters. -/
def withoutOverhang (width : Nat) (cs : List Char) : List Char :=
  let blanks := (cs.reverse.takeWhile Text.isBlank).length
  cs.take (cs.length - min blanks (cs.length - width))

/-- A line of at most `width` cells. -/
def truncated (width : Nat) (overflow : Overflow) (cs : List Char) : List Char :=
  if cellLength cs ≤ width then cs
  else
    match overflow with
    | .fold => cropped width cs
    | .ellipsis => cropped (width - 1) cs ++ ['…']

/-- The lines of a text on a console of `width` cells. -/
def wrapped (width : Nat) (overflow : Overflow) (text : String) : List (List Char) :=
  (Text.splitChars '\n' (text.toList.filter (!isTraceless ·))).flatMap fun line =>
    let line := expandTabs 0 [] line
    let places := breaks width overflow 0 0 (words (line.length + 1) line)
    (dividedAt 0 line places).map fun piece =>
      truncated width overflow (withoutOverhang width piece)

/-- The number of cells on a line. -/
def width : Nat := 1000

/-- Text as it appears on a console. -/
def shown (text : String) : String :=
  "\n".intercalate ((wrapped width .fold text).map String.ofList)

end Stagewright.Console
