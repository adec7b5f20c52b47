import Stagewright.Yaml.Object
import Stagewright.Yaml.Tokens

/-!
Documents: the objects that a text denotes, and their values. A collection may hold itself. Then it
is either written out, and its value says where it comes round again; or it is walked through, and
its value goes on until it is deeper than anything that is walked through to its end.
-/

namespace Stagewright.Yaml

/-- A document that has been read. -/
structure Document where
  objects : Array (Option Object)
  root : Ref
  /-- The values of the objects that do not hold themselves, at their places. -/
  whole : Array (Option Value)

/-- The value of an object, where `value` gives those of what it holds and `pair` puts two values
into a pair, which is known by its position. -/
def Object.value {m : Type → Type} [Monad m] (o : Object) (value : Ref → m Value)
    (pair : Nat → Ref × Ref → m Value) : m Value :=
  match o with
  | .scalar s => return .scalar s
  | .list items => .list <$> items.mapM value
  | .pairs items => .list <$> items.zipIdx.mapM fun e => pair e.2 e.1
  | .set members => return .set members
  | .map entries => .map <$> entries.mapM fun e => do return (e.1, ← value e.2)

/-- The values of the objects that do not hold themselves. `order` lists what an object holds before
the object. -/
def wholeValues (objects : Array (Option Object)) (order : List Ref) : Array (Option Value) :=
  order.foldl (fun whole ref =>
    let value (r : Ref) : Option Value := whole[r]?.join
    let pair (_ : Nat) (e : Ref × Ref) : Option Value := .pair <$> value e.1 <*> value e.2
    whole.setIfInBounds ref ((objects[ref]?.join).bind fun o => o.value value pair))
    (objects.map fun _ => none)

namespace Document

/-- The document in a text, if the text holds one. -/
def read (source : Source) : Except Fault (Option Document) := do
  let (tokens, fault) := tokens source
  let some graph ← Graph.ofTokens? tokens fault | return none
  let objects ← graph.objects
  return some ⟨objects, graph.root, wholeValues objects graph.order⟩

def object? (d : Document) (ref : Ref) : Option Object := d.objects[ref]?.join

/-- The value of an object as it is written out. The collections around it, and the positions of the
pairs around it in those, are not written out again. -/
def written (d : Document) (lists : List Ref) (pairs : List (Ref × Nat)) (ref : Ref) :
    (fuel : Nat) → Value
  | 0 => .null
  | fuel + 1 =>
    match d.whole[ref]?.join, d.object? ref with
    | some v, _ => v
    | none, none => .null
    | none, some o =>
      if lists.contains ref then
        match o with
        | .map _ => .again .map
        | _ => .again .list
      else
        let lists := ref :: lists
        Id.run <| o.value (fun r => d.written lists pairs r fuel) fun i e =>
          if pairs.contains (ref, i) then .again .pair
          else
            let pairs := (ref, i) :: pairs
            .pair (d.written lists pairs e.1 fuel) (d.written lists pairs e.2 fuel)

/-- Enough to write out any object: each level is a collection or a pair of its own. -/
def writtenFuel (d : Document) : Nat := d.objects.size + 1

/-- The values of all objects as they are walked through, up to a number of levels. Pairs are not
walked through. -/
def walkedLevels (d : Document) : (levels : Nat) → Array Value
  | 0 => d.objects.map fun _ => .null
  | levels + 1 =>
    let inner := d.walkedLevels levels
    d.objects.mapIdx fun ref o =>
      match d.whole[ref]?.join, o with
      | some v, _ => v
      | none, none => .null
      | none, some o => Id.run <| o.value (fun r => inner[r]?.getD .null) fun i e =>
          .pair (d.written [] [(ref, i)] e.1 d.writtenFuel)
            (d.written [] [(ref, i)] e.2 d.writtenFuel)

/-- The value of an object as it is walked through. -/
def walked (d : Document) (ref : Ref) : Value :=
  match d.whole[ref]?.join with
  | some v => v
  | none => (d.walkedLevels (Excess.mostLevels + 2))[ref]?.getD .null

end Document

end Stagewright.Yaml
