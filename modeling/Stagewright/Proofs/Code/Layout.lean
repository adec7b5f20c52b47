import Mathlib.Data.List.Chain
import Stagewright.Proofs.Code.Opening
import Stagewright.Proofs.Code.Position

/-!
How code is laid out in blocks. No block is empty and none begins without a header, and what is done
to a connection is done in a block for the case that there is one.
-/

namespace Stagewright.Code

/-- The next line stands one step further in after a header, and no further in after any other
line. -/
def Line.Precedes (line next : Line) : Prop :=
  if line.statement.isHeader then next.depth = line.depth + 1 else next.depth ≤ line.depth

/-- The code begins outside of all blocks, and every block has a body. -/
structure WellIndented (code : Code) : Prop where
  first : ∀ line ∈ code.head?, line.depth = 0
  steps : code.IsChain Line.Precedes
  last : ∀ line ∈ code.getLast?, line.statement.isHeader = false

namespace WellIndented

theorem nil : WellIndented [] := ⟨by simp, .nil, by simp⟩

theorem append {a b : Code} (before : WellIndented a) (after : WellIndented b) :
    WellIndented (a ++ b) where
  first := by
    intro line head
    rw [List.head?_append] at head
    cases front : a.head? with
    | some line' =>
      obtain rfl : line' = line := by simpa [front] using head
      exact before.first line' front
    | none => exact after.first line (by simpa [front] using head)
  steps := by
    -- the second code may begin outside of all blocks because the first one has opened none
    refine List.isChain_append.mpr ⟨before.steps, after.steps, fun line atEnd next atStart => ?_⟩
    have noHeader := before.last line atEnd
    have outermost := after.first next atStart
    simp [Line.Precedes, noHeader, outermost]
  last := by
    intro line atEnd
    rw [List.getLast?_append] at atEnd
    cases back : b.getLast? with
    | some line' =>
      obtain rfl : line' = line := by simpa [back] using atEnd
      exact after.last line' back
    | none => exact before.last line (by simpa [back] using atEnd)

theorem cons {statement : Statement} {statements : List Statement}
    (plain : statement.isHeader = false) (rest : WellIndented (ofStatements statements)) :
    WellIndented (ofStatements (statement :: statements)) := by
  have single : WellIndented [⟨0, statement⟩] :=
    ⟨by simp, .singleton _, by simpa using plain⟩
  exact single.append rest

/-- A block is as well indented as its body, which must not be missing. -/
theorem block {header : Statement} {body : Code} (inside : WellIndented body)
    (opens : header.isHeader = true) (filled : body ≠ []) :
    WellIndented (Code.block header body) where
  first := by simp [Code.block]
  steps := by
    refine List.isChain_cons.mpr ⟨fun next atStart => ?_, ?_⟩
    · rw [deeper, List.head?_map] at atStart
      obtain ⟨line, head, rfl⟩ := Option.map_eq_some_iff.mp atStart
      have outermost := inside.first line head
      simp [Line.Precedes, opens, Line.deeper, outermost]
    · rw [deeper, List.isChain_map]
      refine inside.steps.imp fun line next precedes => ?_
      by_cases opener : line.statement.isHeader = true
      · have step : next.depth = line.depth + 1 := by simpa [Line.Precedes, opener] using precedes
        simp only [Line.Precedes, Line.deeper, opener, if_true, step, Nat.add_assoc]
      · have step : next.depth ≤ line.depth := by simpa [Line.Precedes, opener] using precedes
        simpa [Line.Precedes, Line.deeper, opener] using step
  last := by
    intro line atEnd
    obtain ⟨final, back⟩ : ∃ final, body.getLast? = some final :=
      ⟨_, List.getLast?_eq_some_getLast filled⟩
    have same : final.deeper 1 = line := by
      simpa [Code.block, deeper, List.getLast?_cons, back] using atEnd
    rw [← same]
    exact inside.last final back

end WellIndented

/-- A line at `depth` stands in a block for the case that a variable holds something, and the
variable has kept its value since the header of the block. -/
def Guards (before : Code) (x : Local) (depth : Nat) : Prop :=
  ∃ (earlier : Code) (header : Line) (between : Code), before = earlier ++ header :: between ∧
    header.statement = .whenPresent x ∧ header.depth < depth ∧
    ∀ line ∈ between, header.depth < line.depth ∧ line.statement.binds? ≠ some x

theorem Guards.prepend {before : Code} {x : Local} {depth : Nat} (code : Code)
    (guards : Guards before x depth) : Guards (code ++ before) x depth := by
  obtain ⟨earlier, header, between, split, present, inside, kept⟩ := guards
  exact ⟨code ++ earlier, header, between, by simp [split], present, inside, kept⟩

/-- Statements that need a connection: they read it, and not just to test whether there is one or to
publish it. -/
structure Statement.Reaches (names : Names) (s : Statement) : Prop where
  reads : names.conn ∈ s.reads
  no_test : s ≠ .whenPresent names.conn
  unpublished : ∀ key, s ≠ .publish key names.conn

theorem Statement.not_reaches {names : Names} {s : Statement} (apart : names.conn ∉ s.reads) :
    ¬s.Reaches names :=
  fun reaches => apart reaches.reads

/-- The connection is reached for only where it has been made sure of. -/
def Guarded (names : Names) (code : Code) : Prop :=
  AtEach (fun before line => line.statement.Reaches names →
    Guards before names.conn line.depth) code

namespace Guarded

variable {names : Names}

theorem of_each {code : Code} (each : Each (fun s => ¬s.Reaches names) code) :
    Guarded names code := by
  intro before line after split reaches
  have member : line ∈ code := by simp [split]
  exact absurd reaches (each line member)

theorem append {a b : Code} (first : Guarded names a) (second : Guarded names b) :
    Guarded names (a ++ b) :=
  AtEach.append first (AtEach.mono second fun _ _ guards reaches => (guards reaches).prepend a)

/-- Whatever stands in a block for the case that there is a connection is guarded, if the block does
not bind another one. -/
theorem block {body : Code} (kept : Each (fun s => s.binds? ≠ some names.conn) body) :
    Guarded names (Code.block (.whenPresent names.conn) body) := by
  refine AtEach.cons (fun reaches => absurd rfl reaches.no_test) ?_
  refine AtEach.deeper fun before line after split _ => ?_
  -- it is the header of the block itself that guards the line
  refine ⟨[], ⟨0, .whenPresent names.conn⟩, before.deeper 1, rfl, rfl, ?_, fun earlier member => ?_⟩
  · change 0 < 1 + line.depth
    omega
  · obtain ⟨shallow, among, rfl⟩ := List.mem_map.mp member
    have inside : shallow ∈ body := by simp [split, among]
    refine ⟨?_, kept shallow inside⟩
    change 0 < 1 + shallow.depth
    omega

end Guarded

/-- A statement that opens a block tells a condition. -/
def Statement.Conditional (s : Statement) : Prop := s.isHeader = true → s.keyword? = some "if "

theorem Statement.conditional_of_plain {s : Statement} (plain : s.isHeader = false) :
    s.Conditional := by
  intro header
  rw [plain] at header
  exact Bool.noConfusion header

/-- Code that may stand where the connection has been made sure of. -/
structure Enclosed (names : Names) (code : Code) : Prop where
  indented : WellIndented code
  conditional : Each Statement.Conditional code
  /-- The connection stays the one that it is. -/
  kept : Each (fun s => s.binds? ≠ some names.conn) code

namespace Enclosed

variable {names : Names}

theorem nil : Enclosed names [] := ⟨.nil, .nil, .nil⟩

theorem append {a b : Code} (first : Enclosed names a) (second : Enclosed names b) :
    Enclosed names (a ++ b) :=
  ⟨first.indented.append second.indented, first.conditional.append second.conditional,
    first.kept.append second.kept⟩

theorem cons {statement : Statement} {statements : List Statement}
    (plain : statement.isHeader = false) (other : statement.binds? ≠ some names.conn)
    (rest : Enclosed names (ofStatements statements)) :
    Enclosed names (ofStatements (statement :: statements)) :=
  ⟨rest.indented.cons plain, .cons (Statement.conditional_of_plain plain) rest.conditional,
    .cons other rest.kept⟩

theorem ite {p : Prop} [Decidable p] {a b : Code} (yes : p → Enclosed names a)
    (no : ¬p → Enclosed names b) : Enclosed names (if p then a else b) := by
  split
  · exact yes ‹_›
  · exact no ‹_›

theorem block {header : Statement} {body : Code} (inside : Enclosed names body)
    (opens : header.isHeader = true) (test : header.keyword? = some "if ") (filled : body ≠ [])
    (other : header.binds? ≠ some names.conn) : Enclosed names (Code.block header body) :=
  ⟨inside.indented.block opens filled, .block (fun _ => test) inside.conditional,
    .block other inside.kept⟩

end Enclosed

/-- What holds of the layout of code that is put together from statements and blocks. -/
structure Laid (names : Names) (code : Code) : Prop where
  indented : WellIndented code
  conditional : Each Statement.Conditional code
  guarded : Guarded names code

namespace Laid

variable {names : Names}

theorem nil : Laid names [] := ⟨.nil, .nil, .of_each .nil⟩

theorem append {a b : Code} (first : Laid names a) (second : Laid names b) :
    Laid names (a ++ b) :=
  ⟨first.indented.append second.indented, first.conditional.append second.conditional,
    first.guarded.append second.guarded⟩

theorem cons {statement : Statement} {statements : List Statement}
    (plain : statement.isHeader = false) (apart : ¬statement.Reaches names)
    (rest : Laid names (ofStatements statements)) :
    Laid names (ofStatements (statement :: statements)) := by
  refine ⟨rest.indented.cons plain,
    .cons (Statement.conditional_of_plain plain) rest.conditional, ?_⟩
  have single : Guarded names [⟨0, statement⟩] :=
    .of_each (List.forall_mem_singleton.mpr apart)
  exact single.append rest.guarded

theorem ite {p : Prop} [Decidable p] {a b : Code} (yes : p → Laid names a)
    (no : ¬p → Laid names b) : Laid names (if p then a else b) := by
  split
  · exact yes ‹_›
  · exact no ‹_›

/-- A block with a body, in which the connection is left alone. -/
theorem block {header : Statement} {body : Code} (opens : header.isHeader = true)
    (test : header.keyword? = some "if ") (inside : Laid names body) (filled : body ≠ [])
    (apart : ¬header.Reaches names) (each : Each (fun s => ¬s.Reaches names) body) :
    Laid names (Code.block header body) :=
  ⟨inside.indented.block opens filled, .block (fun _ => test) inside.conditional,
    .of_each (.block apart each)⟩

/-- A block for the case that there is a connection. -/
theorem guard {body : Code} (inside : Enclosed names body) (filled : body ≠ []) :
    Laid names (Code.block (.whenPresent names.conn) body) :=
  ⟨inside.indented.block rfl filled, .block (fun _ => rfl) inside.conditional, .block inside.kept⟩

theorem flatMap {α : Type} {steps : List α} {code : α → Code}
    (each : ∀ step, Laid names (code step)) : Laid names (steps.flatMap code) := by
  induction steps with
  | nil => exact .nil
  | cons step rest ih =>
    rw [List.flatMap_cons]
    exact (each step).append ih

end Laid

end Stagewright.Code
