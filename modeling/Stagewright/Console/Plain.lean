/-!
Text that is put out as it is. Commands to a console, which choose styles and move the cursor, are
taken out of it.
-/

namespace Stagewright.Console

/-- Characters between the beginning of a command and the letter that ends it. -/
def isParameter (c : Char) : Bool := c.isDigit || c = ';' || c = '?'

/-- The characters of the command at the beginning, if there is one: an escape and a bracket,
parameters, and a letter. -/
def commandLength : List Char → Nat
  | '\x1b' :: '[' :: rest =>
    let parameters := rest.takeWhile isParameter
    if (rest.drop parameters.length).head?.any Char.isAlpha then parameters.length + 3 else 0
  | _ => 0

/-- Characters without the commands among them. The first `skip` belong to a command. -/
def withoutCommands (skip : Nat) : List Char → List Char
  | [] => []
  | c :: rest =>
    match skip with
    | skip + 1 => withoutCommands skip rest
    | 0 =>
      match commandLength (c :: rest) with
      | 0 => c :: withoutCommands 0 rest
      | length + 1 => withoutCommands length rest

/-- A text as it is put out. -/
def plain (text : String) : String := String.ofList (withoutCommands 0 text.toList)

/-- Characters as a console receives them: a return in front of a newline belongs to it. -/
def receivedChars : List Char → List Char
  | '\r' :: '\n' :: rest => '\n' :: receivedChars rest
  | c :: rest => c :: receivedChars rest
  | [] => []

def received (text : String) : String := String.ofList (receivedChars text.toList)

end Stagewright.Console
