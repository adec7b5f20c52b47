import Stagewright.Proofs.Attempt
import Stagewright.Yaml.Node

/-!
What can go wrong while nodes are read. Reading goes through the tokens once and from the front, so
it finds no token that is not among them; and it comes to an end only at the end of the stream.
-/

namespace Stagewright.Yaml

open Attempt

/-- A reading that has only some of the tokens left. -/
structure Reading.Among (tokens : List Token) (ending : Fault) (r : Reading) : Prop where
  tokens : r.tokens ⊆ tokens
  ending : r.ending = ending

/-- What can be wrong with nodes whose tokens break off with a fault. -/
def Fault.OfNodes (ending f : Fault) : Prop := f = .malformed ∨ f = .tooDeep ∨ f = ending

variable {tokens : List Token} {ending : Fault} {α β : Type}

variable (tokens ending) in
/-- Reads on among the tokens, or is at fault as nodes may be. -/
abbrev Reads (Q : α → Prop) (p : Parse α) : Prop :=
  Keeps (Reading.Among tokens ending) Q (Fault.OfNodes ending) p

variable (tokens ending) in
/-- The same of a parse whose result does not matter. -/
abbrev ReadsOn (p : Parse α) : Prop := Reads tokens ending (fun _ => True) p

theorem Fault.OfNodes.form : Fault.OfNodes ending .malformed := .inl rfl

namespace Parse

theorem reads_peek : Reads tokens ending (· ∈ tokens) peek := by
  refine .get fun r among => ?_
  split
  · rename_i t rest front
    exact .pure (among.tokens (front ▸ List.mem_cons_self))
  · exact .get fun r among => .throw (.inr (.inr among.ending))

theorem reads_skip : ReadsOn tokens ending skip :=
  .update fun _ among => ⟨fun _ later => among.tokens (List.mem_of_mem_drop later), among.ending⟩

theorem reads_expect (t : Token) : ReadsOn tokens ending (expect t) :=
  .bind reads_peek fun _ _ => .ite (fun _ => reads_skip) fun _ => .throw .form

theorem reads_skipIf (t : Token) : ReadsOn tokens ending (skipIf t) :=
  .bind reads_peek fun _ _ =>
    .ite (fun _ => .bind reads_skip fun _ _ => .pure trivial) fun _ => .pure trivial

theorem reads_place (anchor : Option String) : ReadsOn tokens ending (place anchor) := by
  have push (ref : Ref) : ReadsOn tokens ending (do
      modify fun r => { r with nodes := r.nodes.push ⟨.null, .scalar ""⟩ }
      return ref) :=
    .bind (.update fun _ among => ⟨among.tokens, among.ending⟩) fun _ _ => .pure trivial
  refine .get fun r among => ?_
  cases anchor with
  | none => exact push _
  | some name =>
    exact .ite (fun _ => .refuse .form) fun _ =>
      .bind (.set ⟨among.tokens, among.ending⟩) fun _ _ => push _

theorem reads_finish (ref : Ref) (node : Node) : ReadsOn tokens ending (finish ref node) :=
  .bind (.update fun _ among => ⟨among.tokens, among.ending⟩) fun _ _ => .pure trivial

theorem reads_scalar (anchor : Option String) (tag : Tag) (text : String) :
    ReadsOn tokens ending (scalar anchor tag text) :=
  .bind (reads_place anchor) fun _ _ => reads_finish _ _

theorem reads_collection (anchor : Option String) (tag : Tag) {content : Parse Content}
    (reads : ReadsOn tokens ending content) :
    ReadsOn tokens ending (collection anchor tag content) := by
  refine .bind (reads_place anchor) fun _ _ => .get fun _ _ =>
    .ite (fun _ => .refuse (.inr (.inl rfl))) fun _ => ?_
  refine .bind (.update fun _ among => ⟨among.tokens, among.ending⟩) fun _ _ => ?_
  refine .bind reads fun _ _ => ?_
  refine .bind (.update fun _ among => ⟨among.tokens, among.ending⟩) fun _ _ => ?_
  exact reads_finish _ _

theorem reads_empty : ReadsOn tokens ending empty := reads_scalar _ _ _

theorem reads_aliased (name : String) : ReadsOn tokens ending (aliased name) := by
  refine .get fun _ _ => ?_
  split
  · exact .pure trivial
  · exact .throw .form

end Parse

namespace Properties

open Parse

theorem reads_anchor? : ReadsOn tokens ending anchor? := by
  refine .bind reads_peek fun t _ => ?_
  split
  · exact .bind reads_skip fun _ _ => .pure trivial
  · exact .pure trivial

theorem reads_tag? : ReadsOn tokens ending tag? := by
  refine .bind reads_peek fun t _ => ?_
  split
  · exact .bind reads_skip fun _ _ => .pure trivial
  · exact .pure trivial

theorem reads_read : ReadsOn tokens ending read := by
  refine .bind reads_anchor? fun anchor _ => ?_
  cases anchor with
  | some name => exact .bind reads_tag? fun _ _ => .pure trivial
  | none =>
    refine .bind reads_tag? fun tag _ => ?_
    cases tag with
    | some tag => exact .bind reads_anchor? fun _ _ => .pure trivial
    | none => exact .pure trivial

theorem reads_uri? (p : Properties) : ReadsOn tokens ending p.uri? := by
  unfold uri?
  split
  · exact .pure trivial
  · exact .pure trivial
  · refine .get fun _ _ => ?_
    split
    · exact .pure trivial
    · exact .throw .form

end Properties

open Parse

variable (tokens ending) in
/-- Whatever is read with some fuel is read among the tokens. -/
structure Node.ReadsWith (fuel : Nat) : Prop where
  read (place : Place) : ReadsOn tokens ending (Node.read place fuel)
  readUnless (stops : List Token) (place : Place) :
    ReadsOn tokens ending (Node.readUnless stops place fuel)
  blockItems : ReadsOn tokens ending (Node.blockItems fuel)
  indentless : ReadsOn tokens ending (Node.indentless fuel)
  blockEntries : ReadsOn tokens ending (Node.blockEntries fuel)
  flowEntry (closing : Token) : ReadsOn tokens ending (Node.flowEntry closing fuel)
  flowItems (first : Bool) : ReadsOn tokens ending (Node.flowItems first fuel)
  flowEntries (first : Bool) : ReadsOn tokens ending (Node.flowEntries first fuel)

namespace Node.ReadsWith

theorem zero : Node.ReadsWith tokens ending 0 where
  read _ := .throw .form
  readUnless _ _ := .throw .form
  blockItems := .throw .form
  indentless := .throw .form
  blockEntries := .throw .form
  flowEntry _ := .throw .form
  flowItems _ := .throw .form
  flowEntries _ := .throw .form

variable {fuel : Nat} (inner : Node.ReadsWith tokens ending fuel)

include inner

theorem read_succ (place : Place) : ReadsOn tokens ending (Node.read place (fuel + 1)) := by
  have sequence (anchor : Option String) (tag : Tag) {items : Parse (List Ref)}
      (reads : ReadsOn tokens ending items) :
      ReadsOn tokens ending (collection anchor tag (.sequence <$> items)) :=
    reads_collection _ _ (.map reads fun _ _ => trivial)
  have mapping (anchor : Option String) (tag : Tag) {entries : Parse (List (Ref × Ref))}
      (reads : ReadsOn tokens ending entries) :
      ReadsOn tokens ending (collection anchor tag (.mapping <$> entries)) :=
    reads_collection _ _ (.map reads fun _ _ => trivial)
  rw [Node.read]
  refine .bind reads_peek fun token _ => ?_
  split
  · exact .bind reads_skip fun _ _ => reads_aliased _
  · refine .bind Properties.reads_read fun p _ => .bind (p.reads_uri?) fun uri _ =>
      .bind reads_peek fun token _ =>
        .ite (fun _ => sequence _ _ inner.indentless) fun _ => ?_
    split
    · exact .bind reads_skip fun _ _ => reads_scalar _ _ _
    · exact .bind reads_skip fun _ _ => sequence _ _ (inner.flowItems _)
    · exact .bind reads_skip fun _ _ => mapping _ _ (inner.flowEntries _)
    · exact .ite (fun _ => .refuse .form) fun _ =>
        .bind reads_skip fun _ _ => sequence _ _ inner.blockItems
    · exact .ite (fun _ => .refuse .form) fun _ =>
        .bind reads_skip fun _ _ => mapping _ _ inner.blockEntries
    · exact .ite (fun _ => .refuse .form) fun _ => reads_scalar _ _ _

theorem blockEntries_succ : ReadsOn tokens ending (Node.blockEntries (fuel + 1)) := by
  rw [Node.blockEntries]
  refine .bind (reads_skipIf _) fun _ _ => .ite (fun _ => ?_) fun _ =>
    .bind (reads_expect _) fun _ _ => .pure trivial
  refine .bind (inner.readUnless _ _) fun _ _ => .bind (reads_skipIf _) fun _ _ => ?_
  exact .ite (fun _ => .bind (inner.readUnless _ _) fun _ _ =>
      .bind inner.blockEntries fun _ _ => .pure trivial) fun _ =>
    .bind reads_empty fun _ _ => .bind inner.blockEntries fun _ _ => .pure trivial

theorem flowItems_succ (first : Bool) :
    ReadsOn tokens ending (Node.flowItems first (fuel + 1)) := by
  have items : ReadsOn tokens ending (do
      if ← Parse.skipIf .key then
        let item ← Parse.collection none .map do
          return .mapping [← Node.flowEntry .flowSequenceEnd fuel]
        return item :: (← Node.flowItems false fuel)
      if ← Parse.skipIf .flowSequenceEnd then return []
      let item ← Node.read .flow fuel
      return item :: (← Node.flowItems false fuel)) := by
    refine .bind (reads_skipIf _) fun _ _ => .ite (fun _ => ?pair) fun _ => ?_
    case pair =>
      refine .bind (reads_collection _ _ ?_) fun _ _ =>
        .bind (inner.flowItems _) fun _ _ => .pure trivial
      exact .bind (inner.flowEntry _) fun _ _ => .pure trivial
    refine .bind (reads_skipIf _) fun _ _ => .ite (fun _ => .pure trivial) fun _ => ?_
    exact .bind (inner.read _) fun _ _ => .bind (inner.flowItems _) fun _ _ => .pure trivial
  rw [Node.flowItems]
  refine .bind (reads_skipIf _) fun _ _ => .ite (fun _ => .pure trivial) fun _ => ?_
  exact .ite (fun _ => .bind (reads_expect _) fun _ _ => items) fun _ => items

theorem flowEntries_succ (first : Bool) :
    ReadsOn tokens ending (Node.flowEntries first (fuel + 1)) := by
  have entries : ReadsOn tokens ending (do
      if ← Parse.skipIf .key then
        let entry ← Node.flowEntry .flowMappingEnd fuel
        return entry :: (← Node.flowEntries false fuel)
      if ← Parse.skipIf .flowMappingEnd then return []
      let key ← Node.read .flow fuel
      let value ← Parse.empty
      return (key, value) :: (← Node.flowEntries false fuel)) := by
    refine .bind (reads_skipIf _) fun _ _ => .ite (fun _ => ?_) fun _ => ?_
    · exact .bind (inner.flowEntry _) fun _ _ =>
        .bind (inner.flowEntries _) fun _ _ => .pure trivial
    · refine .bind (reads_skipIf _) fun _ _ => .ite (fun _ => .pure trivial) fun _ => ?_
      exact .bind (inner.read _) fun _ _ => .bind reads_empty fun _ _ =>
        .bind (inner.flowEntries _) fun _ _ => .pure trivial
  rw [Node.flowEntries]
  refine .bind (reads_skipIf _) fun _ _ => .ite (fun _ => .pure trivial) fun _ => ?_
  exact .ite (fun _ => .bind (reads_expect _) fun _ _ => entries) fun _ => entries

theorem succ : Node.ReadsWith tokens ending (fuel + 1) where
  read := inner.read_succ
  readUnless stops place := by
    rw [Node.readUnless]
    exact .bind reads_peek fun _ _ => .ite (fun _ => reads_empty) fun _ => inner.read _
  blockItems := by
    rw [Node.blockItems]
    refine .bind (reads_skipIf _) fun _ _ => .ite (fun _ => ?_) fun _ =>
      .bind (reads_expect _) fun _ _ => .pure trivial
    exact .bind (inner.readUnless _ _) fun _ _ => .bind inner.blockItems fun _ _ => .pure trivial
  indentless := by
    rw [Node.indentless]
    refine .bind (reads_skipIf _) fun _ _ => .ite (fun _ => ?_) fun _ => .pure trivial
    exact .bind (inner.readUnless _ _) fun _ _ => .bind inner.indentless fun _ _ => .pure trivial
  blockEntries := inner.blockEntries_succ
  flowEntry closing := by
    rw [Node.flowEntry]
    refine .bind (inner.readUnless _ _) fun _ _ => .bind (reads_skipIf _) fun _ _ => ?_
    exact .ite (fun _ => .bind (inner.readUnless _ _) fun _ _ => .pure trivial) fun _ =>
      .bind reads_empty fun _ _ => .pure trivial
  flowItems := inner.flowItems_succ
  flowEntries := inner.flowEntries_succ

end Node.ReadsWith

theorem Node.readsWith (fuel : Nat) : Node.ReadsWith tokens ending fuel := by
  induction fuel with
  | zero => exact .zero
  | succ fuel ih => exact ih.succ

theorem reads_directives (fuel : Nat) (versioned : Bool) (handles : List (String × String)) :
    ReadsOn tokens ending (readDirectives versioned handles fuel) := by
  induction fuel generalizing versioned handles with
  | zero => exact .throw .form
  | succ fuel ih =>
    rw [readDirectives]
    refine .bind reads_peek fun token _ => ?_
    split
    · exact .ite (fun _ => .refuse .form) fun _ => .bind reads_skip fun _ _ => ih _ _
    · exact .ite (fun _ => .refuse .form) fun _ => .bind reads_skip fun _ _ => ih _ _
    · exact .bind reads_skip fun _ _ => ih _ _
    · exact .pure trivial

theorem reads_ends (fuel : Nat) : ReadsOn tokens ending (skipEnds fuel) := by
  induction fuel with
  | zero => exact .pure trivial
  | succ fuel ih =>
    exact .bind (reads_skipIf _) fun _ _ => .ite (fun _ => ih) fun _ => .pure trivial

/-- A document that has been read has come to the end of its stream. -/
theorem reads_document (fuel : Nat) :
    Reads tokens ending (fun _ => .streamEnd ∈ tokens) (readDocument fuel) := by
  have ended (root : Ref) : Reads tokens ending (fun _ => .streamEnd ∈ tokens) (do
      skipEnds fuel
      if (← Parse.peek) ≠ .streamEnd then
        let _ ← readDirectives false [] fuel
        throw .malformed
      return some root) := by
    refine .bind (reads_ends fuel) fun _ _ => .bind reads_peek fun token member => ?_
    refine .ite (fun _ => .bind (reads_directives fuel _ _) fun _ _ => .refuse .form) fun last => ?_
    exact .pure (Decidable.not_not.mp last ▸ member)
  have handle (handles : List (String × String)) :
      ReadsOn tokens ending (modify fun r : Reading => { r with handles }) :=
    .update fun _ among => ⟨among.tokens, among.ending⟩
  have nodes : Node.ReadsWith tokens ending fuel := Node.readsWith fuel
  unfold readDocument
  refine .bind reads_peek fun token member => .ite (fun last => .pure (last ▸ member)) fun _ => ?_
  refine .ite (fun _ => ?explicit) fun _ => ?implicit
  case explicit =>
    refine .bind (reads_directives fuel _ _) fun handles _ => .bind (reads_expect _) fun _ _ => ?_
    refine .bind (handle handles) fun _ _ => .bind reads_peek fun token _ => ?_
    split
    · exact .bind reads_empty fun root _ => ended root
    · exact .bind reads_empty fun root _ => ended root
    · exact .bind reads_empty fun root _ => ended root
    · exact .bind reads_empty fun root _ => ended root
    · exact .bind (nodes.read _) fun root _ => ended root
  case implicit =>
    exact .bind (handle _) fun _ _ => .bind (nodes.read _) fun root _ => ended root

/-- Tokens form nodes only up to the end of the stream. Otherwise it is the form of the nodes that
is at fault, or their depth, or where the tokens break off. -/
theorem meets_ofTokens? (tokens : List Token) (fault : Option Fault) :
    Meets (fun _ => .streamEnd ∈ tokens) (Fault.OfNodes (fault.getD .malformed))
      (Graph.ofTokens? tokens fault) :=
  .bind (reads_document _ _ ⟨List.Subset.refl tokens, rfl⟩) fun _ read => .pure read.1

end Stagewright.Yaml
