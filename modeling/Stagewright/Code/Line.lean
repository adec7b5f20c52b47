import Stagewright.Code.Statement

/-!
Code: statements with the depth of the blocks they stand in.
-/

namespace Stagewright.Code

structure Line where
  depth : Nat
  statement : Statement
deriving DecidableEq, Repr

/-- The white space in front of a statement at a depth. -/
def indent (depth : Nat) : String := String.ofList (List.replicate (4 * depth) ' ')

/-- Text at a depth; an empty line stays empty. -/
def indented (depth : Nat) (text : String) : String :=
  if text.isEmpty then "" else indent depth ++ text

namespace Line

def text (line : Line) : String := indented line.depth line.statement.text

/-- The line `depth` blocks further in. -/
def deeper (depth : Nat) (line : Line) : Line := { line with depth := depth + line.depth }

end Line

end Stagewright.Code

namespace Stagewright

/-- Lines with depths relative to the place where they are going to stand. -/
abbrev Code := List Code.Line

namespace Code

def deeper (depth : Nat) (code : Code) : Code := code.map (Line.deeper depth)

/-- Statements one after the other. -/
def ofStatements (statements : List Statement) : Code := statements.map (⟨0, ·⟩)

/-- A block: its header, and its body one step further in. -/
def block (header : Statement) (body : Code) : Code := ⟨0, header⟩ :: body.deeper 1

/-- The text of the lines. -/
def texts (code : Code) : List String := code.map Line.text

end Code

end Stagewright
