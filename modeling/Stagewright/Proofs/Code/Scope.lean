import Stagewright.Proofs.Code.Position
import Stagewright.Proofs.Code.Wording

/-!
Variables are defined before they are used. A binding counts for the lines after it as long as
none of them stands further out than the line that binds.
-/

namespace Stagewright.Code

/-- One of the lines `before` binds a variable, and neither a line after it nor one at `depth`
stands further out than that line. -/
def Binds (before : Code) (x : Local) (depth : Nat) : Prop :=
  ∃ (earlier : Code) (source : Line) (between : Code), before = earlier ++ source :: between ∧
    source.statement.binds? = some x ∧ source.depth ≤ depth ∧
    ∀ line ∈ between, source.depth ≤ line.depth

/-- A variable that a line uses is `known` where the code begins, or bound in front of the line. -/
def DefinedGiven (known : List Local) (code : Code) : Prop :=
  AtEach (fun before line => ∀ x ∈ line.statement.uses, x ∈ known ∨ Binds before x line.depth) code

/-- The variables that code binds outside of its blocks. -/
def bound (code : Code) : List Local :=
  code.filterMap fun line => if line.depth = 0 then line.statement.binds? else none

@[simp] theorem bound_nil : bound [] = [] := rfl

@[simp] theorem bound_append (a b : Code) : bound (a ++ b) = bound a ++ bound b :=
  List.filterMap_append

@[simp] theorem bound_ofStatements (statements : List Statement) :
    bound (ofStatements statements) = statements.filterMap Statement.binds? := by
  rw [bound, ofStatements, List.filterMap_map]
  rfl

/-- What a block binds in its body does not outlast it. -/
@[simp] theorem bound_block (header : Statement) (body : Code) :
    bound (block header body) = header.binds?.toList := by
  have inner : bound (body.deeper 1) = [] := by
    simp [bound, deeper, Line.deeper, List.filterMap_map]
  cases opened : header.binds? <;>
    simp_all [bound, block]

theorem Binds.of_bound {code before : Code} {x : Local} {depth : Nat} (member : x ∈ bound code) :
    Binds (code ++ before) x depth := by
  obtain ⟨source, atSource, value⟩ := List.mem_filterMap.mp member
  obtain ⟨earlier, later, split⟩ := List.append_of_mem atSource
  split at value
  · rename_i outermost
    refine ⟨earlier, source, later ++ before, by simp [split], value, by omega, ?_⟩
    intro line _
    omega
  · exact absurd value (by simp)

theorem Binds.prepend {before : Code} {x : Local} {depth : Nat} (code : Code)
    (binds : Binds before x depth) : Binds (code ++ before) x depth := by
  obtain ⟨earlier, source, between, split, value, within, inner⟩ := binds
  exact ⟨code ++ earlier, source, between, by simp [split], value, within, inner⟩

theorem Binds.deeper {before : Code} {x : Local} {depth : Nat} (more : Nat)
    (binds : Binds before x depth) : Binds (before.deeper more) x (more + depth) := by
  obtain ⟨earlier, source, between, split, value, within, inner⟩ := binds
  refine ⟨earlier.deeper more, source.deeper more, between.deeper more, ?_, value, ?_, ?_⟩
  · simp [split, Code.deeper]
  · simp only [Line.deeper]
    omega
  · intro line member
    obtain ⟨old, atOld, same⟩ := List.mem_map.mp member
    have bound := inner old atOld
    subst same
    simp only [Line.deeper]
    omega

namespace DefinedGiven

variable {known : List Local}

theorem nil : DefinedGiven known [] := AtEach.nil _

theorem mono {more : List Local} {code : Code} (defined : DefinedGiven known code)
    (included : known ⊆ more) : DefinedGiven more code :=
  AtEach.mono defined fun _ _ uses x member => (uses x member).imp_left (included ·)

theorem append {a b : Code} (first : DefinedGiven known a)
    (second : DefinedGiven (known ++ bound a) b) : DefinedGiven known (a ++ b) := by
  refine AtEach.append first (AtEach.mono second ?_)
  intro before line uses x member
  rcases uses x member with given | binds
  · rcases List.mem_append.mp given with outside | inside
    · exact .inl outside
    · exact .inr (.of_bound inside)
  · exact .inr (binds.prepend a)

/-- One statement after the other, each of which may read what those before it bind. -/
theorem cons {statement : Statement} {statements : List Statement}
    (reads : statement.reads ⊆ known)
    (rest : DefinedGiven (known ++ statement.binds?.toList) (ofStatements statements)) :
    DefinedGiven known (ofStatements (statement :: statements)) := by
  have single : DefinedGiven known [⟨0, statement⟩] :=
    AtEach.cons (fun x member => .inl (reads ((statement.mem_uses_iff x).mp member))) (AtEach.nil _)
  have binding : bound [⟨0, statement⟩] = statement.binds?.toList := by
    cases opened : statement.binds? <;> simp [bound, opened]
  exact single.append (binding ▸ rest)

theorem block {header : Statement} {body : Code} (reads : header.reads ⊆ known)
    (inside : DefinedGiven (known ++ header.binds?.toList) body) :
    DefinedGiven known (Code.block header body) := by
  refine AtEach.cons (fun x member => .inl (reads ((header.mem_uses_iff x).mp member))) ?_
  refine AtEach.deeper ?_
  refine AtEach.mono inside ?_
  intro before line uses x member
  rcases uses x member with given | binds
  · rcases List.mem_append.mp given with outside | atHeader
    · exact .inl outside
    · refine .inr ⟨[], ⟨0, header⟩, before.deeper 1, rfl, ?_, Nat.zero_le _, ?_⟩
      · exact Option.mem_toList.mp atHeader
      · intro _ _
        exact Nat.zero_le _
  · exact .inr ((binds.deeper 1).prepend [⟨0, header⟩])

theorem ite {p : Prop} [Decidable p] {a b : Code} (yes : p → DefinedGiven known a)
    (no : ¬p → DefinedGiven known b) : DefinedGiven known (if p then a else b) := by
  split
  · exact yes ‹_›
  · exact no ‹_›

end DefinedGiven

end Stagewright.Code
