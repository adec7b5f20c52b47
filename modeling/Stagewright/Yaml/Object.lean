import Stagewright.Yaml.Node
import Stagewright.Yaml.Scalar

/-!
What nodes denote. Every node denotes one object, however often it is referred to. Scalars are read
at once; collections are filled one after the other, in the order in which they have been met, and
what is wrong with a node only counts when its turn comes.
-/

namespace Stagewright.Yaml

/-- What a node denotes. What a collection holds are places of nodes. -/
inductive Object where
  | scalar (s : Scalar)
  | list (items : List Ref)
  | pairs (items : List (Ref × Ref))
  | set (members : List Scalar)
  | map (entries : List (Scalar × Ref))

/-- What is known while objects are made. -/
structure Making where
  nodes : Array Node
  /-- The objects of the nodes that have been met. -/
  objects : Array (Option Object)
  /-- The collections that have been met, in their order. -/
  met : Array Ref := #[]
  /-- The number of entries of all mappings, which is at least that of merges. -/
  entryCount : Nat

abbrev Make := StateT Making (Except Fault)

namespace Make

def node (ref : Ref) : Make Node := do
  let some n := (← get).nodes[ref]? | throw .malformed
  return n

def setNode (ref : Ref) (n : Node) : Make Unit :=
  modify fun m => { m with nodes := m.nodes.setIfInBounds ref n }

def setObject (ref : Ref) (o : Object) : Make Unit :=
  modify fun m => { m with objects := m.objects.setIfInBounds ref (some o) }

/-- The text that a node gives for a scalar. A mapping can give one under an equals sign; one that
would have to give its own gives none. -/
def text (ref : Ref) : (fuel : Nat) → Make String
  | 0 => throw .tooDeep
  | fuel + 1 => do
    match (← node ref).content with
    | .scalar text => return text
    | .sequence _ => throw .malformed
    | .mapping entries =>
      let nodes := (← get).nodes
      match entries.find? fun e => nodes[e.1]?.any (·.tag = .value) with
      | some (_, value) => text value fuel
      | none => throw .malformed

/-- Makes text of the keys that are an equals sign. -/
def quoteKeys (entries : List (Ref × Ref)) : Make Unit :=
  for (key, _) in entries do
    let n ← node key
    if n.tag = .value then setNode key { n with tag := .str }

def entries (ref : Ref) : Make (List (Ref × Ref)) := do
  match (← node ref).content with
  | .mapping entries => return entries
  | _ => throw .malformed

def items (ref : Ref) : Make (List Ref) := do
  match (← node ref).content with
  | .sequence items => return items
  | _ => throw .malformed

def setEntries (ref : Ref) (entries : List (Ref × Ref)) : Make Unit := do
  setNode ref { ← node ref with content := .mapping entries }

/-- Puts the entries of the mappings that a mapping merges in front of its own. Of several merged at
once the last comes first. A merge is taken out before what it merges is looked at, so a mapping
that merges itself comes to an end. -/
def flatten (ref : Ref) (merged : List (Ref × Ref)) : (fuel : Nat) → Make Unit
  | 0 => throw .malformed
  | fuel + 1 => do
    let own ← entries ref
    let nodes := (← get).nodes
    match own.findIdx? fun e => nodes[e.1]?.any (·.tag = .merge) with
    | none =>
      quoteKeys own
      if !merged.isEmpty then setEntries ref (merged ++ own)
    | some i =>
      setEntries ref (own.eraseIdx i)
      let flat (r : Ref) : Make (List (Ref × Ref)) := do
        let _ ← entries r
        flatten r [] fuel
        entries r
      let some (_, value) := own[i]? | throw .malformed
      let more ← match (← node value).content with
        | .sequence items => do
          let lists ← items.mapM flat
          pure lists.reverse.flatten
        | _ => flat value
      flatten ref (merged ++ more) fuel

/-- Meets a node: a scalar is read, and a collection will be filled. -/
def meet (ref : Ref) : Make Unit := do
  let m ← get
  if (m.objects[ref]?.join).isSome then return
  let n ← node ref
  let later (o : Object) : Make Unit := do
    setObject ref o
    modify fun m => { m with met := m.met.push ref }
  match n.tag with
  | .seq | .omap | .pairs => later (.list [])
  | .map => later (.map [])
  | .set => later (.set [])
  | .merge | .value | .other _ => throw .malformed
  | tag =>
    let text ← text ref (m.nodes.size + 1)
    let isScalar := match n.content with
      | .scalar _ => true
      | _ => false
    if tag = .moment && !isScalar then throw .momentOfCollection
    setObject ref (.scalar (← scalarValue tag ref text))

/-- The key that a node denotes. Only a scalar can be one. -/
def key (ref : Ref) : Make Scalar := do
  meet ref
  match (← get).objects[ref]? with
  | some (some (.scalar s)) => return s
  | _ => throw .malformed

/-- The entries of a mapping, with those it merges. Of two for one key the later counts, in the
place of the earlier. -/
def dict (ref : Ref) : Make (List (Scalar × Ref)) := do
  let _ ← entries ref
  flatten ref [] ((← get).entryCount + 1)
  let found ← (← entries ref).mapM fun e => do
    let k ← key e.1
    meet e.2
    return (k, e.2)
  return Dict.update [] found

/-- The only entry of a mapping. -/
def pair (ref : Ref) : Make (Ref × Ref) := do
  match ← entries ref with
  | [(k, v)] =>
    meet k
    meet v
    return (k, v)
  | _ => throw .malformed

/-- The members of a set in their order: whole numbers are listed from the smallest to the largest,
other members as they have been met. -/
def inOrder (members : List Scalar) : List Scalar :=
  let count? : Scalar → Option Nat
    | .int (.ofNat n) => some n
    | _ => none
  match members.mapM count? with
  | some counts => (counts.mergeSort (· ≤ ·)).map fun n : Nat => .int n
  | none => members

/-- Fills a collection. -/
def fill (ref : Ref) : Make Unit := do
  match (← node ref).tag with
  | .seq =>
    let items ← items ref
    items.forM meet
    setObject ref (.list items)
  | .omap | .pairs => setObject ref (.pairs (← (← items ref).mapM pair))
  | .set => setObject ref (.set (inOrder ((← dict ref).map (·.1))))
  | _ => setObject ref (.map (← dict ref))

/-- Fills the collections that have been met, from the one with an index on. -/
def fillFrom (i : Nat) : (fuel : Nat) → Make Unit
  | 0 => return
  | fuel + 1 => do
    match (← get).met[i]? with
    | none => return
    | some ref =>
      fill ref
      fillFrom (i + 1) fuel

end Make

/-- The objects of a graph. A node that nothing asks for has none. -/
def Graph.objects (g : Graph) : Except Fault (Array (Option Object)) := do
  let count (n : Node) : Nat := match n.content with
    | .mapping entries => entries.length
    | _ => 0
  let making : Making := {
    nodes := g.nodes
    objects := g.nodes.map fun _ => none
    entryCount := (g.nodes.map count).foldl (· + ·) 0 }
  let all : Make Unit := do
    Make.meet g.root
    Make.fillFrom 0 (g.nodes.size + 1)
  return (← all.run making).2.objects

end Stagewright.Yaml
