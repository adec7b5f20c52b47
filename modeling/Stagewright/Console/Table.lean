import Stagewright.Console.Wrap

/-!
Tables in boxes. A column is as wide as its widest cell, measured line by line and without its tabs;
what does not fit then is put on further lines.
-/

namespace Stagewright.Console

structure Column where
  title : String
  /-- The width, where it does not depend on the cells. -/
  width : Option Nat := none

structure Table where
  columns : List Column
  rows : List (List String)

namespace Table

/-- Whether a character ends a line of a text that is measured. -/
def endsLine (c : Char) : Bool :=
  c = '\n' || c = '\x1c' || c = '\x1d' || c = '\x1e' || c = '\x85' || c = '\u2028' || c = '\u2029'

/-- The number of cells of the longest line. -/
def longestLine (cs : List Char) : Nat :=
  let (line, longest) := cs.foldl (fun (line, longest) c =>
    if endsLine c then ([], max longest (cellLength line.reverse))
    else (c :: line, longest)) ([], 0)
  max longest (cellLength line.reverse)

def cellWidth (cell : String) : Nat := longestLine (cell.toList.filter (!isTraceless ·))

/-- The widths of the columns: each is as wide as its widest cell or its title. -/
def widths (table : Table) : List Nat :=
  table.columns.mapIdx fun i column =>
    column.width.getD
      ((table.rows.map fun row => cellWidth (row[i]?.getD "")).foldl max (cellWidth column.title))

/-- A line across the table. -/
def rule (widths : List Nat) (fill : Char) (left middle right : String) : String :=
  left ++ middle.intercalate
    (widths.map fun width => String.ofList (List.replicate (width + 2) fill)) ++ right

/-- A line of a cell. What fills it up is filled up itself if a space is joined to the text. -/
def field (width : Nat) (line : List Char) : String :=
  " " ++ String.ofList (padded width (padded width line)) ++ " "

/-- The lines of a row. Every cell has as many as the one that has most. -/
def rowLines (widths : List Nat) (bar : String) (row : List String) : List String :=
  let cells := (widths.zip row).map fun (width, cell) => (width, wrapped width .ellipsis cell)
  let height := (cells.map (·.2.length)).foldl max 1
  (List.range height).map fun i =>
    let fields := cells.map fun (width, lines) => field width (lines[i]?.getD [])
    bar ++ bar.intercalate fields ++ bar

/-- The lines of a table: heavy ones around the titles, light ones around the rows. -/
def lines (table : Table) : List String :=
  let widths := table.widths
  [rule widths '━' "┏" "┳" "┓"] ++
    rowLines widths "┃" (table.columns.map Column.title) ++
    [rule widths '━' "┡" "╇" "┩"] ++
    table.rows.flatMap (rowLines widths "│") ++
    [rule widths '─' "└" "┴" "┘"]

/-- The table as one text. -/
def text (table : Table) : String := String.join (table.lines.map (· ++ "\n"))

end Table

end Stagewright.Console
