import Stagewright.Number.Shortest
import Stagewright.Value.Calendar
import Stagewright.Value.Dict

/-!
Configuration values: what a job file holds once it has been read.
-/

namespace Stagewright

/-- A value without parts. Only these can be keys of a mapping. -/
inductive Scalar where
  | null
  | bool (b : Bool)
  | int (n : Int)
  | float (x : Binary64)
  | text (s : String)
  | bytes (data : List UInt8)
  | date (d : Date)
  | dateTime (t : DateTime)
deriving DecidableEq, Repr

/-- The collections that can hold other collections. -/
inductive Collection where
  | list
  | pair
  | map
deriving DecidableEq, Repr

inductive Value where
  | scalar (s : Scalar)
  | list (items : List Value)
  | pair (first second : Value)
  | set (members : List Scalar)
  | map (entries : List (Scalar × Value))
  /-- A collection around this place, which it holds again. -/
  | again (collection : Collection)

abbrev Mapping := Dict Scalar Value

namespace Value

@[match_pattern] abbrev null : Value := .scalar .null
@[match_pattern] abbrev bool (b : Bool) : Value := .scalar (.bool b)
@[match_pattern] abbrev int (n : Int) : Value := .scalar (.int n)
@[match_pattern] abbrev text (s : String) : Value := .scalar (.text s)

end Value

namespace Scalar

/-- What a key is known by: truth values and integral floating point numbers count as integers,
and a time that names a zone counts as its moment. What is no number is known by its bits. -/
def identity : Scalar → Scalar ⊕ (Int × Nat)
  | .bool b => .inl (.int (if b then 1 else 0))
  | .float x =>
    match x.toInt? with
    | some n => .inl (.int n)
    | none => .inl (.float x)
  | .dateTime t => if t.offset.isSome then .inr t.instant else .inl (.dateTime t)
  | s => .inl s

/-- Equality of keys. -/
instance : BEq Scalar := ⟨fun a b => decide (a.identity = b.identity)⟩

/-- Scalars that count as not given: null, false, zero and what is empty. -/
def isVoid : Scalar → Bool
  | .null => true
  | .bool b => !b
  | .int n => n = 0
  | .float x => x.isZero
  | .text s => s.isEmpty
  | .bytes data => data.isEmpty
  | .date _ | .dateTime _ => false

end Scalar

namespace Value

/-- Values that count as not given. -/
def isVoid : Value → Bool
  | .scalar s => s.isVoid
  | .list items => items.isEmpty
  | .pair _ _ | .again _ => false
  | .set members => members.isEmpty
  | .map entries => entries.isEmpty

/-- The value unless it counts as not given. -/
def given? (v : Option Value) : Option Value := v.filter (!·.isVoid)

end Value

namespace Mapping

/-- The value under a textual key. -/
def get? (m : Mapping) (key : String) : Option Value := Dict.get? m (.text key)

end Mapping

end Stagewright
