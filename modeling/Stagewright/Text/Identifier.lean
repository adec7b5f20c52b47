import Stagewright.Text.IdentifierTable
import Stagewright.Text.Runs

namespace Stagewright.Text

/-- A letter, or another character that may start a word of the generated program. -/
def isIdentifierStart (c : Char) : Bool := c = '_' || memRuns identifierStartRuns c

/-- A character that may stand inside a word of the generated program. -/
def isIdentifierTail (c : Char) : Bool := memRuns identifierTailRuns c

/-- Text that the generated program can use as part of a variable's name. -/
def isIdentifier (s : String) : Bool :=
  match s.toList with
  | [] => false
  | c :: rest => isIdentifierStart c && rest.all isIdentifierTail

end Stagewright.Text
