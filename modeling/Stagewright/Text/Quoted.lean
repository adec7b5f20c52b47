import Stagewright.Text.PrintableTable
import Stagewright.Text.Runs
import Stagewright.Text.Symbol

/-!
String literals of the generated program. A literal stands in single quotes, or in double quotes
when the text holds a single quote and no double one; the quote, the backslash and every character
that is not printable are escaped, so a literal never breaks its line.
-/

namespace Stagewright.Text

/-- A character that is shown as itself inside a literal. -/
def isPrintable (c : Char) : Bool := memRuns printableRuns c

/-- The hexadecimal digit of a number below sixteen. -/
def hexDigit (n : Nat) : Char := if n < 10 then Char.ofNat (48 + n) else Char.ofNat (87 + n)

/-- The last `width` hexadecimal digits of `n`. -/
def hexDigits : (width : Nat) → (n : Nat) → List Char
  | 0, _ => []
  | width + 1, n => hexDigits width (n / 16) ++ [hexDigit (n % 16)]

/-- The escape of the symbol with a number. -/
def escapeNumber (n : Nat) : List Char :=
  if n < 0x100 then '\\' :: 'x' :: hexDigits 2 n
  else if n < 0x10000 then '\\' :: 'u' :: hexDigits 4 n
  else '\\' :: 'U' :: hexDigits 8 n

/-- A symbol as it stands between quotes `quote`. -/
def escapeSymbol (quote : Char) : Symbol → List Char
  | .char c =>
    if c = quote ∨ c = '\\' then ['\\', c]
    else if c = '\t' then ['\\', 't']
    else if c = '\n' then ['\\', 'n']
    else if c = '\r' then ['\\', 'r']
    else if isPrintable c then [c]
    else escapeNumber c.toNat
  | s => escapeNumber s.number

/-- The quote that a text is written between. -/
def quoteFor (cs : List Char) : Char :=
  if '\'' ∈ cs ∧ '"' ∉ cs then '"' else '\''

/-- The characters of the literal of a text. -/
def literalChars (cs : List Char) : List Char :=
  let quote := quoteFor cs
  quote :: (symbols cs).flatMap (escapeSymbol quote) ++ [quote]

/-- The literal of a text. -/
def literal (s : String) : String := String.ofList (literalChars s.toList)

end Stagewright.Text
