import Stagewright.Value.Excess
import Stagewright.Variable.Substitution

/-!
How far replacing references gets. It stops at a reference to a variable that cannot be written out,
and at a collection that is nested too deep; what has been logged before stays logged.
-/

namespace Stagewright.Variable

/-- What is logged, and what puts an end to it. -/
structure Reach where
  records : List Log.Record := []
  stop : Option Excess := none

namespace Reach

/-- What comes after, unless there is an end to it already. -/
def andThen (first : Reach) (next : Unit → Reach) : Reach :=
  match first.stop with
  | some _ => first
  | none =>
    let next := next ()
    ⟨first.records ++ next.records, next.stop⟩

/-- One reference, in a text that stands inside so many collections that `room` more could be walked
through. What it asks for is written out where it stands. -/
def ofReference (scope : Scope) (room : Nat) (r : Reference) : Reach :=
  match scope.get? r.name with
  | some v => { stop := v.excessIn? (Excess.nesting room) }
  | none => if r.default.isNone then { records := [r.unresolved] } else {}

/-- References, the last one first. -/
def ofReferences (scope : Scope) (room : Nat) : List Reference → Reach
  | [] => {}
  | r :: rs => (ofReferences scope room rs).andThen fun _ => ofReference scope room r

mutual

/-- A value that stands inside so many collections that `room` more can be walked through. -/
def ofValue (scope : Scope) (room : Nat) : Value → Reach
  | .scalar (.text s) => ofReferences scope room (references s)
  | .list items => if room = 0 then { stop := some .depth } else ofItems scope (room - 1) items
  | .map entries => if room = 0 then { stop := some .depth } else ofEntries scope (room - 1) entries
  | _ => {}

def ofItems (scope : Scope) (room : Nat) : List Value → Reach
  | [] => {}
  | v :: vs => (ofValue scope room v).andThen fun _ => ofItems scope room vs

def ofEntries (scope : Scope) (room : Nat) : List (Scalar × Value) → Reach
  | [] => {}
  | (_, v) :: rest => (ofValue scope room v).andThen fun _ => ofEntries scope room rest

end

end Reach

/-- A value with the references replaced in every text it holds, if replacing them gets that far. At
most `room` collections inside one another are walked through. -/
def resolve (scope : Scope) (room : Nat) (value : Value) : Except Excess Value × List Log.Record :=
  let reach := Reach.ofValue scope room value
  match reach.stop with
  | some e => (.error e, reach.records)
  | none =>
    let (resolved, records) := substituteValue scope value
    (.ok resolved, records)

end Stagewright.Variable
