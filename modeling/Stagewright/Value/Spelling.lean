import Stagewright.Value.Basic

/-!
How values are spelled as text: `literal` is the expression of the generated program that denotes
a value, and `spell` is the same except that text and calendar values stand for themselves.
-/

namespace Stagewright

/-- A byte inside a literal. -/
def escapeByte (quote : Char) (b : UInt8) : List Char :=
  let c := Char.ofNat b.toNat
  if c = quote ∨ c = '\\' then ['\\', c]
  else if c = '\t' then ['\\', 't']
  else if c = '\n' then ['\\', 'n']
  else if c = '\r' then ['\\', 'r']
  else if 32 ≤ b.toNat ∧ b.toNat < 127 then [c]
  else '\\' :: 'x' :: Text.hexDigits 2 b.toNat

def bytesLiteral (data : List UInt8) : String :=
  let quote := Text.quoteFor (data.map fun b => Char.ofNat b.toNat)
  String.ofList ('b' :: quote :: data.flatMap (escapeByte quote) ++ [quote])

namespace Scalar

def literal : Scalar → String
  | .null => "None"
  | .bool b => if b then "True" else "False"
  | .int n => toString n
  | .float x => x.text
  | .text s => Text.literal s
  | .bytes data => bytesLiteral data
  | .date d => d.literal
  | .dateTime t => t.literal

def spell (s : Scalar) : String :=
  match s with
  | .text s => s
  | .date d => d.text
  | .dateTime t => t.text
  | s => s.literal

end Scalar

/-- What is written where a collection stands inside itself. -/
def Collection.dots : Collection → String
  | .list => "[...]"
  | .pair => "(...)"
  | .map => "\x7b...\x7d"

namespace Value

mutual

def literal : Value → String
  | .scalar s => s.literal
  | .list items => "[" ++ ", ".intercalate (literals items) ++ "]"
  | .pair a b => "(" ++ a.literal ++ ", " ++ b.literal ++ ")"
  | .set members =>
    if members.isEmpty then "set()"
    else "\x7b" ++ ", ".intercalate (members.map Scalar.literal) ++ "\x7d"
  | .map entries => "\x7b" ++ ", ".intercalate (entryLiterals entries) ++ "\x7d"
  | .again collection => collection.dots

def literals : List Value → List String
  | [] => []
  | v :: vs => v.literal :: literals vs

def entryLiterals : List (Scalar × Value) → List String
  | [] => []
  | (k, v) :: rest => (k.literal ++ ": " ++ v.literal) :: entryLiterals rest

end

def spell (v : Value) : String :=
  match v with
  | .scalar s => s.spell
  | v => v.literal

end Value

end Stagewright
