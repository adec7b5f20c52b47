/-!
Lines of a text. Only the newline character separates lines; a text always has at least one line,
and a final newline gives a last empty one.
-/

namespace Stagewright.Text

/-- The pieces between the characters equal to `separator`. -/
def splitChars (separator : Char) : List Char → List (List Char)
  | [] => [[]]
  | c :: rest =>
    if c = separator then [] :: splitChars separator rest
    else
      match splitChars separator rest with
      | [] => [[c]]
      | piece :: pieces => (c :: piece) :: pieces

/-- The lines of a text. -/
def lines (s : String) : List String := (splitChars '\n' s.toList).map String.ofList

/-- Lines joined by newlines. -/
def unlines (ls : List String) : String := "\n".intercalate ls

end Stagewright.Text
