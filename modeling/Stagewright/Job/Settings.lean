import Stagewright.Text.Blank
import Stagewright.Text.Case
import Stagewright.Text.Symbol
import Stagewright.Value.Basic

/-!
Settings of a job. They are read from a mapping, or from anything else whose parts are entries.
-/

namespace Stagewright

/-- What a job sets for all of its stages. -/
structure Settings where
  logEnabled : Bool := false
  extra : Mapping := []

/-- Whether a value switches something on. Text does so only when it says true. -/
def Value.switchesOn : Value → Bool
  | .text s => Text.lower (Text.trim s) = "true"
  | v => !v.isVoid

/-- The parts of a value, if it has any: symbols, items, members or keys. -/
def Value.parts? : Value → Option (List Value)
  | .text s => some ((Text.symbols s.toList).map fun symbol => .text (Text.ofSymbols [symbol]))
  | .list items => some items
  | .pair first second => some [first, second]
  | .set members => some (members.map .scalar)
  | .map entries => some (entries.map fun e => .scalar e.1)
  | .scalar _ | .again _ => none

/-- Why a value holds no entries. Positions count from zero. -/
inductive EntryFault where
  /-- The value, or a part of it, has no parts. -/
  | notEntry
  /-- A part of the value does not have two parts. -/
  | badSize (position size : Nat)
  /-- A key has parts itself. -/
  | badKey
deriving DecidableEq, Repr

/-- What a fault says, if it says something. -/
def EntryFault.message? : EntryFault → Option String
  | .badSize position size =>
    some ("dictionary update sequence element #" ++ toString position ++ " has length " ++
      toString size ++ "; 2 is required")
  | .notEntry | .badKey => none

/-- The entry that a part of a value is: a key and what stands beside it. -/
def Value.entry? (position : Nat) (part : Value) : Except EntryFault (Scalar × Value) :=
  match part.parts? with
  | none => .error .notEntry
  | some [.scalar key, value] => .ok (key, value)
  | some [_, _] => .error .badKey
  | some parts => .error (.badSize position parts.length)

/-- The entries of a value, at positions from `position` on, put one after the other. -/
def Value.entriesFrom (position : Nat) (m : Mapping) : List Value → Except EntryFault Mapping
  | [] => .ok m
  | part :: rest => do
    let (key, value) ← part.entry? position
    Value.entriesFrom (position + 1) (m.put key value) rest

namespace Settings

/-- The settings in a mapping; what is not known is kept aside. -/
def ofMapping (m : Mapping) : Settings where
  logEnabled := (m.get? "log_enabled").any Value.switchesOn
  extra := m.erase (.text "log_enabled")

/-- The settings in a value. What counts as not given sets nothing. -/
def ofValue (v : Option Value) : Except EntryFault Settings :=
  match Value.given? v with
  | none => .ok {}
  | some (.map entries) => .ok (ofMapping entries)
  | some v =>
    match v.parts? with
    | none => .error .notEntry
    | some parts => (Value.entriesFrom 0 [] parts).map ofMapping

end Settings

end Stagewright
