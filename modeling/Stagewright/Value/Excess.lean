import Stagewright.Value.Basic

/-!
Values that are too large: integers with more digits than are written out, and collections nested
deeper than they are walked through or written out.
-/

namespace Stagewright

/-- What there can be too much of. -/
inductive Excess where
  | digits
  | depth
deriving DecidableEq, Repr

namespace Excess

/-- The most digits of an integer that is read or written in the decimal system. -/
def mostDigits : Nat := 4300

/-- The most collections inside one another that are walked through. -/
def mostLevels : Nat := 490

/-- The most collections inside one another that are written out where `room` more could be walked
through. Walking through one takes as much as writing out two. -/
def nesting (room : Nat) : Nat := 2 * room

/-- The sentence about too many digits, with `detail` in its middle. -/
def digitsMessage (detail : String) : String :=
  "Exceeds the limit (" ++ toString mostDigits ++ " digits) for integer string conversion" ++
    detail ++ "; use sys.set_int_max_str_digits() to increase the limit"

/-- What is said about it, if something is. -/
def message? : Excess → Option String
  | .digits => some (digitsMessage "")
  | .depth => none

end Excess

/-- What is too much in a scalar that is written out. -/
def Scalar.excess? : Scalar → Option Excess
  | .int n => if n.natAbs < Nat.pow 10 Excess.mostDigits then none else some .digits
  | _ => none

namespace Value

/-- What a collection is written out of, in its order. -/
def held? : Value → Option (List Value)
  | .scalar _ | .again _ => none
  | .list items => some items
  | .pair first second => some [first, second]
  | .set members => some (members.map .scalar)
  | .map entries => some (entries.flatMap fun e => [.scalar e.1, e.2])

/-- What is met first of all that is too much in a value, where at most `room` collections inside
one another are written out. -/
def excessIn? (room : Nat) (v : Value) : Option Excess :=
  match v, v.held? with
  | .scalar s, _ => s.excess?
  | _, none => none
  | _, some held =>
    match room with
    | 0 => some .depth
    | room + 1 => held.findSome? fun w => excessIn? room w

/-- What is too much in a value that is written out on its own. -/
def excess? (v : Value) : Option Excess := v.excessIn? (Excess.nesting Excess.mostLevels)

/-- Whether a value can be written out. -/
def isWritable (v : Value) : Bool := v.excess?.isNone

end Value

end Stagewright
