import Stagewright.Number.Binary64

/-!
The fewest decimal digits that read back as a given number, and the way a number is written with
them.
-/

namespace Stagewright.Binary64

/-- The number of decimal digits of `n`. -/
def decimalLength (n : Nat) : Nat := (Nat.toDigits 10 n).length

/-- `x * 2 ^ q / 10 ^ k` as a quotient. -/
def decimalRatio (x : Nat) (q k : Int) : Nat × Nat :=
  let (up, down) := power 2 q
  let (ten, tenth) := power 10 k
  (x * up * tenth, down * ten)

/-- The greatest `e` with `10 ^ e` not above a positive `m * 2 ^ q`. -/
def decimalExponent (m : Nat) (q : Int) : Int :=
  let (a, b) := decimalRatio m q 0
  if b ≤ a then (decimalLength (a / b) : Int) - 1 else -(decimalLength (b / a) : Int)

/-- On the grid of step `10 ^ k`, the nearer of the two neighbours of `m * 2 ^ q` among those that
round to it, a tie going to the even one. The interval that rounds to the number reaches half way
to the next numbers, ends included iff `m` is even; below a power of two it is half as long. -/
def nearestOnGrid (m : Nat) (q k : Int) : Option Nat :=
  let (value, unit) := decimalRatio (4 * m) (q - 2) k
  let (high, _) := decimalRatio (4 * m + 2) (q - 2) k
  let reach := if m = exponentWeight ∧ q > -1074 then 1 else 2
  let (low, _) := decimalRatio (4 * m - reach) (q - 2) k
  let rounds (c : Nat) : Bool :=
    if m % 2 = 0 then low ≤ c * unit && c * unit ≤ high else low < c * unit && c * unit < high
  let below := value / unit
  let above := below + 1
  match rounds below, rounds above with
  | false, false => none
  | true, false => some below
  | false, true => some above
  | true, true =>
    let left := value - below * unit
    let right := above * unit - value
    some (if left < right ∨ (left = right ∧ below % 2 = 0) then below else above)

/-- The fewest digits `d` and the exponent `k` such that `d * 10 ^ k` reads back as a positive
`m * 2 ^ q`; seventeen digits always suffice. -/
def shortest (m : Nat) (q : Int) : Nat × Int :=
  let e := decimalExponent m q
  ((List.range 17).findSome? fun (n : Nat) =>
    let k := e - n
    (nearestOnGrid m q k).map (·, k)).getD (m, q)

/-- Numbers are written positionally from `1e-4` up to `1e16`, with at least one digit after the
point; outside that range the exponent has a sign and at least two digits. -/
def layout (digits : List Char) (point : Int) : String :=
  let exponent := point - 1
  let zeros (n : Int) : List Char := List.replicate n.toNat '0'
  let size : Int := digits.length
  if -4 ≤ exponent ∧ exponent < 16 then
    String.ofList <|
      if point ≤ 0 then '0' :: '.' :: zeros (-point) ++ digits
      else if size ≤ point then digits ++ zeros (point - size) ++ ['.', '0']
      else digits.take point.toNat ++ '.' :: digits.drop point.toNat
  else
    let head := match digits with
      | [] => []
      | [d] => [d]
      | d :: rest => d :: '.' :: rest
    let power := Nat.toDigits 10 exponent.natAbs
    String.ofList (head ++ 'e' :: (if exponent < 0 then '-' else '+') ::
      List.replicate (2 - power.length) '0' ++ power)

/-- A number in the fewest digits that read back as it. -/
def text (x : Binary64) : String :=
  if x.isNaN then "nan"
  else
    let sign := if x.negative then "-" else ""
    if x.isInfinite then sign ++ "inf"
    else if x.isZero then sign ++ "0.0"
    else
      let (m, q) := x.decode
      let (d, k) := shortest m q
      let all := Nat.toDigits 10 d
      let kept := (all.reverse.dropWhile (· = '0')).reverse
      sign ++ layout kept (all.length + k)

end Stagewright.Binary64
