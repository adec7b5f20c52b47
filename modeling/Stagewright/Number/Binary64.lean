/-!
Binary floating point numbers of 64 bits, held as their bits so that equality of values is
decidable and the sign of zero is kept. `ofDecimal` rounds to nearest, and `decode` gives back the
integer multiple of a power of two that a finite number stands for.
-/

namespace Stagewright

structure Binary64 where
  bits : UInt64
deriving DecidableEq, Repr

namespace Binary64

/-- The weight of the sign bit, the power of two with exponent 63. -/
def signWeight : Nat := 0x8000000000000000

/-- The weight of the lowest bit of the exponent, the power of two with exponent 52. It is also the
least mantissa of a number that has all its digits. -/
def exponentWeight : Nat := 0x10000000000000

/-- The magnitude of infinity. Those above it are no numbers. -/
def infiniteMagnitude : Nat := 0x7ff * exponentWeight

/-- Whether the sign bit is set. -/
def negative (x : Binary64) : Bool := x.bits.toNat ≥ signWeight

/-- The bits of the magnitude, without the sign. -/
def magnitude (x : Binary64) : Nat := x.bits.toNat % signWeight

def isInfinite (x : Binary64) : Bool := x.magnitude == infiniteMagnitude

def isNaN (x : Binary64) : Bool := x.magnitude > infiniteMagnitude

def isZero (x : Binary64) : Bool := x.magnitude == 0

/-- A magnitude with a sign. -/
def ofMagnitude (negative : Bool) (magnitude : Nat) : Binary64 :=
  ⟨(magnitude + if negative then signWeight else 0).toUInt64⟩

def infinity (negative : Bool) : Binary64 := ofMagnitude negative infiniteMagnitude

def nan : Binary64 := ofMagnitude false (infiniteMagnitude + exponentWeight / 2)

/-- Something else that is no number, which differs from others by its index. -/
def numbered (index : Nat) : Binary64 :=
  ofMagnitude false (infiniteMagnitude + 1 + index % (exponentWeight / 2 - 1))

/-- `m` and `q` with magnitude `m * 2 ^ q`, for a finite number. -/
def decode (x : Binary64) : Nat × Int :=
  let field : Nat := x.magnitude / exponentWeight
  let fraction : Nat := x.magnitude % exponentWeight
  if field = 0 then (fraction, -1074) else (fraction + exponentWeight, (field : Int) - 1075)

/-- The quotient rounded to the nearest integer, a tie going to the even one. -/
def roundQuotient (num den : Nat) : Nat :=
  let floor := num / den
  let twice := 2 * (num % den)
  if twice > den ∨ (twice = den ∧ floor % 2 = 1) then floor + 1 else floor

/-- A power as a numerator and a denominator, one of which is 1. -/
def power (base : Nat) (exponent : Int) : Nat × Nat :=
  (base.pow exponent.toNat, base.pow (-exponent).toNat)

/-- The number nearest to `num / den`: the mantissa has 53 bits unless the exponent is least, and
a magnitude past the largest finite one becomes infinite. -/
def ofRatio (negative : Bool) (num den : Nat) : Binary64 :=
  if num = 0 then ofMagnitude negative 0
  else
    let scaled (e : Int) : Nat × Nat :=
      let (up, down) := power 2 e
      (num * down, den * up)
    let guess : Int := (num.log2 : Int) - den.log2 - 52
    let (a, b) := scaled guess
    let exact := if a < b * exponentWeight then guess - 1 else guess
    let e := max exact (-1074)
    let (a, b) := scaled e
    let m := roundQuotient a b
    let magnitude :=
      if m < exponentWeight then m
      else (e + 1075).toNat * exponentWeight + (m - exponentWeight)
    ofMagnitude negative (min magnitude infiniteMagnitude)

/-- The number nearest to `digits * 10 ^ exponent`. Exponents far outside the range of finite
numbers are not raised to a power. -/
def ofDecimal (negative : Bool) (digits : Nat) (exponent : Int) : Binary64 :=
  let size : Int := exponent + (Nat.toDigits 10 digits).length
  if digits = 0 ∨ size < -400 then ofMagnitude negative 0
  else if size > 400 then infinity negative
  else
    let (up, down) := power 10 exponent
    ofRatio negative (digits * up) down

/-- The integer that a number equals, if it equals one. -/
def toInt? (x : Binary64) : Option Int :=
  if x.isInfinite || x.isNaN then none
  else
    let (m, q) := x.decode
    let (up, down) := power 2 q
    if m * up % down = 0 then
      let n : Int := (m * up / down : Nat)
      some (if x.negative then -n else n)
    else none

/-- Sum, product and opposite, as the machine computes them. -/
def add (x y : Binary64) : Binary64 := ⟨(Float.ofBits x.bits + Float.ofBits y.bits).toBits⟩

def mul (x y : Binary64) : Binary64 := ⟨(Float.ofBits x.bits * Float.ofBits y.bits).toBits⟩

def neg (x : Binary64) : Binary64 := ofMagnitude (!x.negative) x.magnitude

end Binary64

end Stagewright
