import Stagewright.Proofs.Attempt
import Stagewright.Yaml.Object

/-!
What can go wrong while objects are made of nodes. The nodes change on the way: keys become text,
and mappings take over the entries of others. But no node gets another text, or another tag that
means more than text, so a scalar that denotes nothing is written in the document as it stands.
-/

namespace Stagewright.Yaml

open Attempt

/-- What becomes of a node among others. -/
def Node.From (nodes : Array Node) (n : Node) : Prop :=
  ∃ origin ∈ nodes, (n.tag = origin.tag ∨ n.tag = .str) ∧
    ∀ text, n.content = .scalar text → origin.content = .scalar text

def Making.From (nodes : Array Node) (m : Making) : Prop := ∀ n ∈ m.nodes, n.From nodes

/-- What can be wrong with the objects of nodes. -/
inductive Fault.OfObjects (nodes : Array Node) : Fault → Prop
  | form : OfObjects nodes .malformed
  | tooDeep : OfObjects nodes .tooDeep
  | moment {n : Node} (member : n ∈ nodes) (tagged : n.tag = .moment) :
    OfObjects nodes .momentOfCollection
  /-- The text of a node denotes nothing of the kind that the tag of a node names. -/
  | scalar {n holder : Node} {index : Nat} {text : String} {f : Fault} (member : n ∈ nodes)
    (held : holder ∈ nodes) (written : holder.content = .scalar text)
    (refused : scalarValue n.tag index text = .error f) : OfObjects nodes f

variable {nodes : Array Node} {α : Type}

variable (nodes) in
/-- Goes on with what becomes of the nodes, or is at fault as objects may be. -/
abbrev Makes (Q : α → Prop) (p : Make α) : Prop :=
  Keeps (Making.From nodes) Q (Fault.OfObjects nodes) p

variable (nodes) in
/-- The same where the result does not matter. -/
abbrev MakesOn (p : Make α) : Prop := Makes nodes (fun _ => True) p

theorem scalarValue_of_from {n : Node} (become : n.From nodes) {text : String}
    (written : ∃ holder ∈ nodes, holder.content = .scalar text) (index : Nat) :
    Meets (fun _ => True) (Fault.OfObjects nodes) (scalarValue n.tag index text) := by
  obtain ⟨origin, member, tag, -⟩ := become
  obtain ⟨holder, held, written⟩ := written
  rcases tag with same | plain
  · rw [same]
    cases refused : scalarValue origin.tag index text with
    | ok s => exact .ok trivial
    | error f => exact .error (.scalar member held written refused)
  · rw [plain]
    exact .ok trivial

namespace Make

theorem makes_node (ref : Ref) : Makes nodes (Node.From nodes) (node ref) := by
  refine .get fun m become => ?_
  split
  · rename_i n found
    exact .pure (become n (Array.mem_of_getElem? found))
  · exact .throw .form

theorem makes_setNode (ref : Ref) {n : Node} (become : n.From nodes) :
    MakesOn nodes (setNode ref n) := by
  refine .update fun m others other member => ?_
  rcases Array.mem_or_eq_of_mem_setIfInBounds member with before | rfl
  · exact others other before
  · exact become

theorem makes_setObject (ref : Ref) (o : Object) : MakesOn nodes (setObject ref o) :=
  .update fun _ become => become

theorem makes_text (ref : Ref) (fuel : Nat) :
    Makes nodes (fun text => ∃ holder ∈ nodes, holder.content = .scalar text) (text ref fuel) := by
  induction fuel generalizing ref with
  | zero => exact .throw .tooDeep
  | succ fuel ih =>
    rw [text]
    refine .bind (makes_node ref) fun n become => ?_
    obtain ⟨origin, member, -, same⟩ := become
    split
    · rename_i written
      exact .pure ⟨origin, member, same _ written⟩
    · exact .throw .form
    · refine .get fun m _ => ?_
      dsimp only
      split
      · exact ih _
      · exact .throw .form

theorem makes_quoteKeys (entries : List (Ref × Ref)) : MakesOn nodes (quoteKeys entries) := by
  refine .bind (.forIn fun entry _ _ => ?_) fun _ _ => .pure trivial
  refine .bind (makes_node entry.1) fun n become => ?_
  obtain ⟨origin, member, -, same⟩ := become
  exact .ite (fun _ => .bind (makes_setNode _ ⟨origin, member, .inr rfl, same⟩) fun _ _ =>
    .pure trivial) fun _ => .pure trivial

theorem makes_entries (ref : Ref) : MakesOn nodes (entries ref) := by
  refine .bind (makes_node ref) fun n _ => ?_
  split
  · exact .pure trivial
  · exact .throw .form

theorem makes_items (ref : Ref) : MakesOn nodes (items ref) := by
  refine .bind (makes_node ref) fun n _ => ?_
  split
  · exact .pure trivial
  · exact .throw .form

theorem makes_setEntries (ref : Ref) (entries : List (Ref × Ref)) :
    MakesOn nodes (setEntries ref entries) := by
  refine .bind (makes_node ref) fun n become => ?_
  obtain ⟨origin, member, tag, -⟩ := become
  exact makes_setNode ref ⟨origin, member, tag, fun _ written => nomatch written⟩

theorem makes_flatten (fuel : Nat) (ref : Ref) (merged : List (Ref × Ref)) :
    MakesOn nodes (flatten ref merged fuel) := by
  induction fuel generalizing ref merged with
  | zero => exact .throw .form
  | succ fuel ih =>
    have flat (r : Ref) : MakesOn nodes (do
        let _ ← entries r
        flatten r [] fuel
        entries r) :=
      .bind (makes_entries r) fun _ _ => .bind (ih r []) fun _ _ => makes_entries r
    rw [flatten]
    refine .bind (makes_entries ref) fun own _ => .get fun m _ => ?_
    dsimp only
    split
    · exact .bind (makes_quoteKeys own) fun _ _ =>
        .ite (fun _ => makes_setEntries ref _) fun _ => .pure trivial
    · refine .bind (makes_setEntries ref _) fun _ _ => ?_
      split
      · refine .bind (makes_node _) fun n _ => ?_
        split
        · refine .bind (.mapM fun r _ => flat r) fun _ _ => ?_
          exact .bind (Q := fun _ => True) (.pure trivial) fun _ _ => ih ref _
        · exact .bind (flat _) fun _ _ => ih ref _
      · exact .throw .form

theorem makes_meet (ref : Ref) : MakesOn nodes (meet ref) := by
  have later (o : Object) : MakesOn nodes (do
      setObject ref o
      modify fun m => { m with met := m.met.push ref }) :=
    .bind (makes_setObject ref o) fun _ _ => .update fun _ become => become
  refine .get fun m _ => .ite (fun _ => .pure trivial) fun _ =>
    .bind (makes_node ref) fun n become => ?_
  split
  · exact later _
  · exact later _
  · exact later _
  · exact later _
  · exact later _
  · exact .throw .form
  · exact .throw .form
  · exact .throw .form
  · refine .bind (makes_text ref _) fun text written => .ite (fun asked => .refuse ?moment)
      fun _ => .bind (.lift (scalarValue_of_from become written ref)) fun _ _ =>
        makes_setObject ref _
    case moment =>
      obtain ⟨tagged, -⟩ := Bool.and_eq_true_iff.mp asked
      obtain ⟨origin, member, same | plain, -⟩ := become
      · exact .moment member (same.symm.trans (of_decide_eq_true tagged))
      · exact absurd (plain.symm.trans (of_decide_eq_true tagged)) (by simp)

theorem makes_key (ref : Ref) : MakesOn nodes (key ref) := by
  refine .bind (makes_meet ref) fun _ _ => .get fun m _ => ?_
  split
  · exact .pure trivial
  · exact .throw .form

theorem makes_dict (ref : Ref) : MakesOn nodes (dict ref) := by
  refine .bind (makes_entries ref) fun _ _ => .get fun m _ =>
    .bind (makes_flatten _ ref []) fun _ _ => .bind (makes_entries ref) fun entries _ => ?_
  refine .bind (.mapM fun e _ => ?_) fun _ _ => .pure trivial
  exact .bind (makes_key _) fun _ _ => .bind (makes_meet _) fun _ _ => .pure trivial

theorem makes_pair (ref : Ref) : MakesOn nodes (pair ref) := by
  refine .bind (makes_entries ref) fun entries _ => ?_
  split
  · exact .bind (makes_meet _) fun _ _ => .bind (makes_meet _) fun _ _ => .pure trivial
  · exact .throw .form

theorem makes_fill (ref : Ref) : MakesOn nodes (fill ref) := by
  refine .bind (makes_node ref) fun n _ => ?_
  split
  · exact .bind (makes_items ref) fun _ _ => .bind (.forM fun r _ => makes_meet r) fun _ _ =>
      makes_setObject ref _
  · exact .bind (makes_items ref) fun _ _ => .bind (.mapM fun r _ => makes_pair r) fun _ _ =>
      makes_setObject ref _
  · exact .bind (makes_items ref) fun _ _ => .bind (.mapM fun r _ => makes_pair r) fun _ _ =>
      makes_setObject ref _
  · exact .bind (makes_dict ref) fun _ _ => makes_setObject ref _
  · exact .bind (makes_dict ref) fun _ _ => makes_setObject ref _

theorem makes_fillFrom (fuel i : Nat) : MakesOn nodes (fillFrom i fuel) := by
  induction fuel generalizing i with
  | zero => exact .pure trivial
  | succ fuel ih =>
    rw [fillFrom]
    refine .get fun m _ => ?_
    split
    · exact .pure trivial
    · exact .bind (makes_fill _) fun _ _ => ih _

end Make

/-- The objects of a graph can be made, or else its form or its depth is at fault, or a scalar in it
denotes nothing. -/
theorem meets_objects (g : Graph) :
    Meets (fun _ => True) (Fault.OfObjects g.nodes) g.objects := by
  have all : MakesOn g.nodes (do
      Make.meet g.root
      Make.fillFrom 0 (g.nodes.size + 1)) :=
    .bind (Make.makes_meet _) fun _ _ => Make.makes_fillFrom _ _
  exact .bind (all _ fun n member => ⟨n, member, .inl rfl, fun _ => id⟩) fun _ _ => .pure trivial

end Stagewright.Yaml
