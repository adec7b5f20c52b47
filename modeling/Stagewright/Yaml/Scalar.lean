import Stagewright.Text.Case
import Stagewright.Text.Decimal
import Stagewright.Text.Lines
import Stagewright.Yaml.Tag
import Stagewright.Yaml.Token

/-!
Values of scalars. The tag says how the text is read; a text that only claims to be of the kind
that its tag names is a fault of its own.
-/

namespace Stagewright.Yaml

/-- Text without the low lines that group digits. -/
def ungrouped (cs : List Char) : List Char := cs.filter (· ≠ '_')

/-- Whether a number is below zero, and its characters without a sign. -/
def splitSign (cs : List Char) : Bool × List Char :=
  match cs with
  | '-' :: rest => (true, rest)
  | '+' :: rest => (false, rest)
  | cs => (false, cs)

def digitValue (c : Char) : Nat :=
  if c.isDigit then c.toNat - 48
  else if 'a' ≤ c ∧ c ≤ 'z' then c.toNat - 87
  else if 'A' ≤ c ∧ c ≤ 'Z' then c.toNat - 55
  else 36

/-- The mark in front of digits of a base. -/
def baseMark? (base : Nat) : Option (List Char) :=
  match base with
  | 2 => some ['b', 'B']
  | 8 => some ['o', 'O']
  | 16 => some ['x', 'X']
  | _ => none

/-- An integer in a base. White space around it, a sign and a mark of the base are allowed, and
the digits may be those of any script. -/
def integer (base : Nat) (cs : List Char) : Except Fault Int :=
  let fault : Fault := .badInteger base (String.ofList cs)
  let (negative, cs) := splitSign (Text.numeral cs)
  let digits := match cs with
    | '0' :: mark :: rest => if ((baseMark? base).getD []).contains mark then rest else cs
    | cs => cs
  let count := (digits.takeWhile Char.isDigit).length
  if base = 10 && count > Excess.mostDigits then .error (.longInteger count)
  else if digits.isEmpty || digits.any (base ≤ digitValue ·) then .error fault
  else
    let n : Int := (digits.foldl (fun n c => base * n + digitValue c) 0 : Nat)
    .ok (if negative then -n else n)

/-- An integer in one of its forms. -/
def intScalar (text : String) : Except Fault Scalar := do
  let cs := ungrouped text.toList
  if cs.isEmpty then throw .emptyNumber
  let (negative, cs) := splitSign cs
  let n ← match cs with
    | [] => throw .emptyNumber
    | ['0'] => pure 0
    | '0' :: 'b' :: rest => integer 2 rest
    | '0' :: 'x' :: rest => integer 16 rest
    | '0' :: _ => integer 8 cs
    | _ =>
      if cs.contains ':' then do
        let parts ← (Text.splitChars ':' cs).mapM (integer 10)
        pure (parts.foldl (fun n part => 60 * n + part) 0)
      else integer 10 cs
  return .int (if negative then -n else n)

/-- A decimal number: digits, perhaps with a point among them, and perhaps an exponent. -/
def decimal? (negative : Bool) (cs : List Char) : Option Binary64 :=
  let whole := cs.takeWhile Char.isDigit
  let cs := cs.drop whole.length
  let fraction := if cs.head? = some '.' then (cs.drop 1).takeWhile Char.isDigit else []
  let cs := if cs.head? = some '.' then cs.drop (fraction.length + 1) else cs
  let digits := whole ++ fraction
  let value (exponent : Int) : Binary64 :=
    .ofDecimal negative (digits.foldl (fun n c => 10 * n + digitValue c) 0)
      (exponent - fraction.length)
  if digits.isEmpty then none
  else
    match cs with
    | [] => some (value 0)
    | 'e' :: rest =>
      let (down, ds) := splitSign rest
      if ds.isEmpty || !ds.all Char.isDigit then none
      else
        let n : Int := (ds.foldl (fun n c => 10 * n + digitValue c) 0 : Nat)
        some (value (if down then -n else n))
    | _ => none

/-- A floating point number in small letters, white space around it allowed. -/
def float (cs : List Char) : Except Fault Binary64 :=
  let (negative, body) := splitSign (Text.numeral cs)
  let word := String.ofList body
  if word = "inf" || word = "infinity" then .ok (.infinity negative)
  else if word = "nan" then .ok .nan
  else
    match decimal? negative body with
    | some x => .ok x
    | none => .error (.badFloat (String.ofList cs))

/-- The sum of numbers in units of sixty, the last of them counted in ones. -/
def sixtieths (parts : List Binary64) : Except Fault Binary64 := do
  let (sum, _) ← parts.reverse.foldlM (fun (sum, unit) part =>
    let scale := Binary64.ofRatio false unit 1
    if scale.isInfinite then throw Fault.hugeUnit
    else return (Binary64.add sum (Binary64.mul part scale), 60 * unit))
    (Binary64.ofMagnitude false 0, 1)
  return sum

/-- A floating point number in one of its forms. What is no number is known by `index`, unless it
is written as such. -/
def floatScalar (index : Nat) (text : String) : Except Fault Scalar := do
  let cs := (Text.lower (String.ofList (ungrouped text.toList))).toList
  if cs.isEmpty then throw .emptyNumber
  let (negative, cs) := splitSign cs
  if cs = ".nan".toList then return .float .nan
  let x ←
    if cs = ".inf".toList then pure (Binary64.infinity false)
    else if cs.contains ':' then (Text.splitChars ':' cs).mapM float >>= sixtieths
    else float cs
  return .float (if x.isNaN then .numbered index else if negative then x.neg else x)

/-- Truth values are known by their words in small letters. -/
def boolScalar (text : String) : Except Fault Scalar :=
  let word := Text.lower text
  if ["yes", "true", "on"].contains word then .ok (.bool true)
  else if ["no", "false", "off"].contains word then .ok (.bool false)
  else .error .badTruth

def momentScalar (text : String) : Except Fault Scalar :=
  match moment? (Tag.withoutNewline text.toList) with
  | some m => m.scalar.mapError .calendar
  | none => .error .badMoment

/-- The six bits that a character of encoded bytes stands for. -/
def sixBits? (c : Char) : Option Nat :=
  if 'A' ≤ c ∧ c ≤ 'Z' then some (c.toNat - 65)
  else if 'a' ≤ c ∧ c ≤ 'z' then some (c.toNat - 71)
  else if c.isDigit then some (c.toNat + 4)
  else if c = '+' then some 62
  else if c = '/' then some 63
  else none

/-- Bytes from characters of six bits each, `count` bits of `carry` being left over. Characters
that stand for none are skipped; padding ends the bytes once they are complete. -/
def decodeBits (carry count padding : Nat) : List Char → Option (List UInt8)
  | [] => if count = 0 then some [] else none
  | c :: rest =>
    if c = '=' then
      if (count = 4 && padding = 1) || (count = 2 && padding = 0) then some []
      else decodeBits carry count (padding + 1) rest
    else
      match sixBits? c with
      | none => decodeBits carry count padding rest
      | some bits =>
        let all := carry * 64 + bits
        if count = 0 then decodeBits all 6 0 rest
        else
          (decodeBits (all % 2 ^ (count - 2)) (count - 2) 0 rest).map
            ((all / 2 ^ (count - 2)).toUInt8 :: ·)

/-- Bytes that are written as text. -/
def bytesScalar (text : String) : Except Fault Scalar :=
  let cs := text.toList
  if cs.all (·.toNat < 128) then
    match decodeBits 0 0 0 cs with
    | some data => .ok (.bytes data)
    | none => .error .malformed
  else .error .malformed

/-- The value of a scalar with the given tag, the node with an index. -/
def scalarValue (tag : Tag) (index : Nat) (text : String) : Except Fault Scalar :=
  match tag with
  | .null => .ok .null
  | .bool => boolScalar text
  | .int => intScalar text
  | .float => floatScalar index text
  | .binary => bytesScalar text
  | .moment => momentScalar text
  | .str => .ok (.text text)
  | _ => .error .malformed

end Stagewright.Yaml
