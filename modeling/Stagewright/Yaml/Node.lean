import Stagewright.Yaml.Tag
import Stagewright.Yaml.Token

/-!
The nodes of a document. They are kept in an array, and what a collection holds are places in it; an
alias is the place of the node that carries its anchor. So a collection can hold the same node
twice, and even itself.
-/

namespace Stagewright.Yaml

/-- The place of a node. -/
abbrev Ref := Nat

inductive Content where
  | scalar (text : String)
  | sequence (items : List Ref)
  | mapping (entries : List (Ref × Ref))
deriving DecidableEq, Repr

structure Node where
  tag : Tag
  content : Content
deriving DecidableEq, Repr

/-- What is known while nodes are read. -/
structure Reading where
  tokens : List Token
  /-- What is wrong where the tokens break off. -/
  ending : Fault
  nodes : Array Node := #[]
  /-- The nodes that have been read to their end, the latest first. -/
  finished : List Ref := []
  /-- The number of collections that are open. -/
  depth : Nat := 0
  /-- The nodes with an anchor. -/
  anchors : List (String × Ref) := []
  /-- What the handles of tags stand for. -/
  handles : List (String × String) := []

abbrev Parse := StateT Reading (Except Fault)

namespace Parse

def peek : Parse Token := do
  match (← get).tokens with
  | t :: _ => return t
  | [] => throw (← get).ending

def skip : Parse Unit := modify fun r => { r with tokens := r.tokens.drop 1 }

/-- Skips the token, which must be the one given. -/
def expect (t : Token) : Parse Unit := do
  if (← peek) = t then skip else throw .malformed

/-- Skips the token if it is the one given. -/
def skipIf (t : Token) : Parse Bool := do
  if (← peek) = t then
    skip
    return true
  return false

/-- The place of a new node. No two nodes have the same anchor. -/
def place (anchor : Option String) : Parse Ref := do
  let r ← get
  let ref := r.nodes.size
  if let some name := anchor then
    if r.anchors.any (·.1 = name) then throw .malformed
    set { r with anchors := (name, ref) :: r.anchors }
  modify fun r => { r with nodes := r.nodes.push ⟨.null, .scalar ""⟩ }
  return ref

/-- Puts a node at its place. -/
def finish (ref : Ref) (node : Node) : Parse Ref := do
  modify fun r => { r with nodes := r.nodes.setIfInBounds ref node, finished := ref :: r.finished }
  return ref

/-- A scalar node. -/
def scalar (anchor : Option String) (tag : Tag) (text : String) : Parse Ref := do
  finish (← place anchor) ⟨tag, .scalar text⟩

/-- A collection, whose place is known to what it holds. -/
def collection (anchor : Option String) (tag : Tag) (content : Parse Content) : Parse Ref := do
  let ref ← place anchor
  if (← get).depth ≥ Excess.mostLevels then throw .tooDeep
  modify fun r => { r with depth := r.depth + 1 }
  let content ← content
  modify fun r => { r with depth := r.depth - 1 }
  finish ref ⟨tag, content⟩

/-- A scalar where nothing is written. -/
def empty : Parse Ref := scalar none .null ""

/-- The node that an alias stands for. -/
def aliased (name : String) : Parse Ref := do
  match (← get).anchors.find? (·.1 = name) with
  | some (_, ref) => return ref
  | none => throw .malformed

end Parse

/-- What is said in front of the content of a node. -/
structure Properties where
  anchor : Option String
  tag : Option TagText

namespace Properties

def anchor? : Parse (Option String) := do
  match ← Parse.peek with
  | .anchor name =>
    Parse.skip
    return some name
  | _ => return none

def tag? : Parse (Option TagText) := do
  match ← Parse.peek with
  | .tag tag =>
    Parse.skip
    return some tag
  | _ => return none

/-- An anchor and a tag, in either order. -/
def read : Parse Properties := do
  match ← anchor? with
  | some name => return ⟨some name, ← tag?⟩
  | none =>
    match ← tag? with
    | some tag => return ⟨← anchor?, some tag⟩
    | none => return ⟨none, none⟩

/-- The full text of the tag. -/
def uri? (p : Properties) : Parse (Option String) := do
  match p.tag with
  | none => return none
  | some ⟨none, suffix⟩ => return some suffix
  | some ⟨some handle, suffix⟩ =>
    match (← get).handles.find? (·.1 = handle) with
    | some (_, beginning) => return some (beginning ++ suffix)
    | none => throw .malformed

end Properties

/-- The tag of a scalar. A lone mark asks for the tag that the text would have if it were plain. -/
def scalarTag (uri : Option String) (text : String) (plain : Bool) : Tag :=
  match uri with
  | none => if plain then .ofPlain text else .str
  | some "!" => .ofPlain text
  | some uri => .ofUri uri

def collectionTag (uri : Option String) (usual : Tag) : Tag :=
  match uri with
  | none | some "!" => usual
  | some uri => .ofUri uri

/-- Where a node stands: inside brackets, in a block, or as the value of a block mapping, where
a sequence need not be indented. -/
inductive Place where
  | flow
  | block
  | blockValue
deriving DecidableEq, Repr

mutual

/-- Reads a node. -/
def Node.read (place : Place) : (fuel : Nat) → Parse Ref
  | 0 => throw .malformed
  | fuel + 1 => do
    if let .reference name ← Parse.peek then
      Parse.skip
      return ← Parse.aliased name
    let p ← Properties.read
    let uri ← p.uri?
    let token ← Parse.peek
    let sequence (items : Parse (List Ref)) : Parse Ref :=
      Parse.collection p.anchor (collectionTag uri .seq) (.sequence <$> items)
    let mapping (entries : Parse (List (Ref × Ref))) : Parse Ref :=
      Parse.collection p.anchor (collectionTag uri .map) (.mapping <$> entries)
    if place = .blockValue && token = .blockEntry then
      sequence (Node.indentless fuel)
    else
      match token with
      | .scalar text plain =>
        Parse.skip
        Parse.scalar p.anchor (scalarTag uri text plain) text
      | .flowSequenceStart =>
        Parse.skip
        sequence (Node.flowItems true fuel)
      | .flowMappingStart =>
        Parse.skip
        mapping (Node.flowEntries true fuel)
      | .blockSequenceStart =>
        if place = .flow then throw .malformed
        Parse.skip
        sequence (Node.blockItems fuel)
      | .blockMappingStart =>
        if place = .flow then throw .malformed
        Parse.skip
        mapping (Node.blockEntries fuel)
      | _ =>
        if p.anchor.isNone && p.tag.isNone then throw .malformed
        Parse.scalar p.anchor (scalarTag uri "" true) ""

/-- Reads a node, or nothing in front of the given tokens. -/
def Node.readUnless (stops : List Token) (place : Place) : (fuel : Nat) → Parse Ref
  | 0 => throw .malformed
  | fuel + 1 => do
    if stops.contains (← Parse.peek) then Parse.empty else Node.read place fuel

/-- The items of a block sequence up to its end. -/
def Node.blockItems : (fuel : Nat) → Parse (List Ref)
  | 0 => throw .malformed
  | fuel + 1 => do
    if ← Parse.skipIf .blockEntry then
      let item ← Node.readUnless [.blockEntry, .blockEnd] .block fuel
      return item :: (← Node.blockItems fuel)
    Parse.expect .blockEnd
    return []

/-- The items of a sequence that is not indented. It ends where there is no other item. -/
def Node.indentless : (fuel : Nat) → Parse (List Ref)
  | 0 => throw .malformed
  | fuel + 1 => do
    if ← Parse.skipIf .blockEntry then
      let item ← Node.readUnless [.blockEntry, .key, .value, .blockEnd] .block fuel
      return item :: (← Node.indentless fuel)
    return []

/-- The entries of a block mapping up to its end. -/
def Node.blockEntries : (fuel : Nat) → Parse (List (Ref × Ref))
  | 0 => throw .malformed
  | fuel + 1 => do
    let stops : List Token := [.key, .value, .blockEnd]
    if ← Parse.skipIf .key then
      let key ← Node.readUnless stops .blockValue fuel
      let value ←
        if ← Parse.skipIf .value then Node.readUnless stops .blockValue fuel else Parse.empty
      return (key, value) :: (← Node.blockEntries fuel)
    Parse.expect .blockEnd
    return []

/-- A key and its value in brackets, behind the mark of the key. -/
def Node.flowEntry (closing : Token) : (fuel : Nat) → Parse (Ref × Ref)
  | 0 => throw .malformed
  | fuel + 1 => do
    let key ← Node.readUnless [.value, .flowEntry, closing] .flow fuel
    let value ←
      if ← Parse.skipIf .value then Node.readUnless [.flowEntry, closing] .flow fuel
      else Parse.empty
    return (key, value)

/-- The items of a sequence in brackets. An entry among them is a mapping of its own. -/
def Node.flowItems (first : Bool) : (fuel : Nat) → Parse (List Ref)
  | 0 => throw .malformed
  | fuel + 1 => do
    if ← Parse.skipIf .flowSequenceEnd then return []
    if !first then Parse.expect .flowEntry
    if ← Parse.skipIf .key then
      let item ← Parse.collection none .map do
        return .mapping [← Node.flowEntry .flowSequenceEnd fuel]
      return item :: (← Node.flowItems false fuel)
    if ← Parse.skipIf .flowSequenceEnd then return []
    let item ← Node.read .flow fuel
    return item :: (← Node.flowItems false fuel)

/-- The entries of a mapping in brackets. A node on its own is a key without a value. -/
def Node.flowEntries (first : Bool) : (fuel : Nat) → Parse (List (Ref × Ref))
  | 0 => throw .malformed
  | fuel + 1 => do
    if ← Parse.skipIf .flowMappingEnd then return []
    if !first then Parse.expect .flowEntry
    if ← Parse.skipIf .key then
      let entry ← Node.flowEntry .flowMappingEnd fuel
      return entry :: (← Node.flowEntries false fuel)
    if ← Parse.skipIf .flowMappingEnd then return []
    let key ← Node.read .flow fuel
    let value ← Parse.empty
    return (key, value) :: (← Node.flowEntries false fuel)

end

/-- What handles stand for unless directives say otherwise. -/
def usualHandles : List (String × String) := [("!", "!"), ("!!", Tag.common)]

/-- Reads the directives in front of a document. There is one version at most, the first, and each
handle is explained once. -/
def readDirectives (versioned : Bool) (handles : List (String × String)) :
    (fuel : Nat) → Parse (List (String × String))
  | 0 => throw .malformed
  | fuel + 1 => do
    match ← Parse.peek with
    | .directive (.version major _) =>
      if versioned || major ≠ 1 then throw .malformed
      Parse.skip
      readDirectives true handles fuel
    | .directive (.tag handle beginning) =>
      if handles.any (·.1 = handle) then throw .malformed
      Parse.skip
      readDirectives versioned (handles ++ [(handle, beginning)]) fuel
    | .directive .other =>
      Parse.skip
      readDirectives versioned handles fuel
    | _ => return handles ++ usualHandles

/-- Skips the marks at the end of a document. -/
def skipEnds : (fuel : Nat) → Parse Unit
  | 0 => return
  | fuel + 1 => do
    if ← Parse.skipIf .documentEnd then skipEnds fuel

/-- Reads the only document of a stream, if there is one. A second one is a fault, once its
directives have been read. -/
def readDocument (fuel : Nat) : Parse (Option Ref) := do
  let token ← Parse.peek
  if token = .streamEnd then return none
  let explicit := match token with
    | .documentStart | .directive _ => true
    | _ => false
  let root ←
    if explicit then do
      let handles ← readDirectives false [] fuel
      Parse.expect .documentStart
      modify fun r => { r with handles }
      match ← Parse.peek with
      | .directive _ | .documentStart | .documentEnd | .streamEnd => Parse.empty
      | _ => Node.read .block fuel
    else do
      modify fun r => { r with handles := usualHandles }
      Node.read .block fuel
  skipEnds fuel
  if (← Parse.peek) ≠ .streamEnd then
    let _ ← readDirectives false [] fuel
    throw .malformed
  return some root

/-- The nodes of a document. -/
structure Graph where
  nodes : Array Node
  root : Ref
  /-- The nodes in the order in which they end. What a node holds ends before it does, unless it
  holds itself. -/
  order : List Ref

/-- The nodes that tokens form. Where they break off with a fault, that is the fault of the whole,
unless the tokens before it are at fault already. -/
def Graph.ofTokens? (tokens : List Token) (fault : Option Fault) : Except Fault (Option Graph) := do
  let reading : Reading := { tokens, ending := fault.getD .malformed }
  let (root, r) ← (readDocument (4 * tokens.length + 8)).run reading
  return root.map fun root => ⟨r.nodes, root, r.finished.reverse⟩

end Stagewright.Yaml
