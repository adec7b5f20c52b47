import Stagewright.Log.Record
import Stagewright.Value.Spelling
import Stagewright.Variable.Reference

/-!
Replacing references by the values of variables. A reference to an unknown variable gives way to
its default; without one it stays as it is and a warning is logged.
-/

namespace Stagewright.Variable

/-- Values of variables. The keys come from documents, so they need not be text. -/
abbrev Scope := Mapping

/-- What takes the place of a reference, if anything does. -/
def Reference.replacement? (scope : Scope) (r : Reference) : Option String :=
  match scope.get? r.name with
  | some v => some v.spell
  | none => r.default

def Reference.unresolved (r : Reference) : Log.Record :=
  ⟨.warning, .substitution, "Variable '" ++ r.name ++ "' is not defined"⟩

/-- Replaces references, the last one first: the places of the others are then still right. -/
def replaceAll (scope : Scope) : List Reference → List Char → List Char × List Log.Record
  | [], cs => (cs, [])
  | r :: rs, cs =>
    let (cs, records) := replaceAll scope rs cs
    match r.replacement? scope with
    | some value => (cs.take r.start ++ value.toList ++ cs.drop r.stop, records)
    | none => (cs, records ++ [r.unresolved])

/-- A text with its references replaced. -/
def substitute (scope : Scope) (s : String) : String × List Log.Record :=
  let (cs, records) := replaceAll scope (references s) s.toList
  (String.ofList cs, records)

mutual

/-- A value with the references replaced in every text it holds, keys excepted. -/
def substituteValue (scope : Scope) : Value → Value × List Log.Record
  | .scalar (.text s) =>
    let (s, records) := substitute scope s
    (.text s, records)
  | .list items =>
    let (items, records) := substituteItems scope items
    (.list items, records)
  | .map entries =>
    let (entries, records) := substituteEntries scope entries
    (.map entries, records)
  | v => (v, [])

def substituteItems (scope : Scope) : List Value → List Value × List Log.Record
  | [] => ([], [])
  | v :: vs =>
    let (v, first) := substituteValue scope v
    let (vs, rest) := substituteItems scope vs
    (v :: vs, first ++ rest)

def substituteEntries (scope : Scope) : List (Scalar × Value) → Mapping × List Log.Record
  | [] => ([], [])
  | (k, v) :: entries =>
    let (v, first) := substituteValue scope v
    let (entries, rest) := substituteEntries scope entries
    ((k, v) :: entries, first ++ rest)

end

/-- The scope of a document: its environment, overruled by its own variables, and these by the
overrides. -/
def scopeOf (environment own overrides : Scope) : Scope :=
  (environment.update own).update overrides

end Stagewright.Variable
