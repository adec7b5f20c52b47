import Mathlib.Data.List.Forall2
import Stagewright.Proofs.Generation.Fragment

/-!
Generating stages one after the other. The first stage that is refused decides how a job fails, and
otherwise every stage has the fragment that it would have alone.
-/

namespace Stagewright.Generation

open Code

theorem generateProgram_stages (table : Table) (job : Job) (stages : List Stage) :
    (generateProgram table { job with stages }).1 =
      match stages.findSome? (refusal? table.orStandard job.settings) with
      | some e => .error e
      | none => .ok (stages.filterMap (fragment? table.orStandard job.settings)) :=
  (generateProgram_eq table { job with stages }).trans (generateStages_eq _ _ _)

/-- The table has no generator for the kind of the stage. -/
def Unknown (table : Table) (stage : Stage) : Prop := table.get? stage.kind = none

/-- The generator that the table has for the stage looks at a parameter there is too much in. -/
def Unwritable (table : Table) (settings : Settings) (stage : Stage) (e : Excess) : Prop :=
  ∃ kind, table.get? stage.kind = some kind ∧ excess? kind ⟨stage, settings⟩ = some e

/-- The kind of the stage is in the way, or something that its generator looks at. -/
def Refused (table : Table) (settings : Settings) (stage : Stage) : Prop :=
  Unknown table stage ∨ ∃ e, Unwritable table settings stage e

section Refusal

variable {table : Table} {settings : Settings} {stage : Stage}

theorem refusal?_unknown_iff {e : EmissionError} :
    refusal? table settings stage = some (.emission e) ↔
      Unknown table stage ∧ e = .unknownKind stage.cid stage.kind table.kinds := by
  rw [refusal?, Unknown]
  cases table.get? stage.kind with
  | none => simp [eq_comm]
  | some kind => simp

theorem refusal?_unwritable_iff {e : Excess} :
    refusal? table settings stage = some (.excess e) ↔ Unwritable table settings stage e := by
  rw [refusal?, Unwritable]
  cases table.get? stage.kind <;> simp

theorem refusal?_eq_none_iff :
    refusal? table settings stage = none ↔ ¬Refused table settings stage := by
  constructor
  · rintro accepted (unknown | ⟨e, unwritable⟩)
    · exact nomatch accepted.symm.trans (refusal?_unknown_iff.mpr ⟨unknown, rfl⟩)
    · exact nomatch accepted.symm.trans (refusal?_unwritable_iff.mpr unwritable)
  · intro accepted
    cases refused : refusal? table settings stage with
    | none => rfl
    | some e =>
      cases e with
      | excess e => exact absurd (.inr ⟨e, refusal?_unwritable_iff.mp refused⟩) accepted
      | emission e => exact absurd (.inl (refusal?_unknown_iff.mp refused).1) accepted

end Refusal

/-- The stage is the first one with the property. -/
def IsFirst (holds : Stage → Prop) (stages : List Stage) (stage : Stage) : Prop :=
  ∃ before after, stages = before ++ stage :: after ∧ holds stage ∧
    ∀ earlier ∈ before, ¬holds earlier

theorem exists_isFirst_iff {holds : Stage → Prop} {stages : List Stage} :
    (∃ stage, IsFirst holds stages stage) ↔ ∃ stage ∈ stages, holds stage := by
  constructor
  · rintro ⟨stage, before, after, rfl, held, -⟩
    exact ⟨stage, by simp, held⟩
  · rintro ⟨stage, member, held⟩
    induction stages with
    | nil => exact absurd member List.not_mem_nil
    | cons head rest ih =>
      by_cases here : holds head
      · exact ⟨head, [], rest, rfl, here, by simp⟩
      · have later : stage ∈ rest := by
          rcases List.mem_cons.mp member with rfl | later
          · exact absurd held here
          · exact later
        obtain ⟨found, before, after, split, property, earlier⟩ := ih later
        refine ⟨found, head :: before, after, by rw [split, List.cons_append], property, ?_⟩
        exact List.forall_mem_cons.mpr ⟨here, earlier⟩

section Whole

variable {table : Table} {job : Job} {stages first second : List Stage}

theorem generateProgram_error_iff {e : GenerationError} :
    (generateProgram table { job with stages }).1 = .error e ↔
      ∃ stage, IsFirst (Refused table.orStandard job.settings) stages stage ∧
        refusal? table.orStandard job.settings stage = some e := by
  have decided : (generateProgram table { job with stages }).1 = .error e ↔
      stages.findSome? (refusal? table.orStandard job.settings) = some e := by
    rw [generateProgram_stages]
    cases stages.findSome? (refusal? table.orStandard job.settings) <;> simp
  rw [decided, List.findSome?_eq_some_iff]
  constructor
  · rintro ⟨before, stage, after, split, refused, earlier⟩
    refine ⟨stage, ⟨before, after, split, ?_, fun other member => ?_⟩, refused⟩
    · refine Classical.byContradiction fun accepted => ?_
      rw [refusal?_eq_none_iff.mpr accepted] at refused
      exact absurd refused (by simp)
    · exact refusal?_eq_none_iff.mp (earlier other member)
  · rintro ⟨stage, ⟨before, after, split, -, earlier⟩, refused⟩
    refine ⟨before, stage, after, split, refused, fun other member => ?_⟩
    exact refusal?_eq_none_iff.mpr (earlier other member)

theorem generateProgram_ok_iff {program : Program} :
    (generateProgram table { job with stages }).1 = .ok program ↔
      (∀ stage ∈ stages, ¬Refused table.orStandard job.settings stage) ∧
        program = stages.filterMap (fragment? table.orStandard job.settings) := by
  rw [generateProgram_eq, generateStages_ok_iff]
  exact and_congr (forall₂_congr fun stage _ => refusal?_eq_none_iff) eq_comm

theorem generateProgram_append {program : Program} :
    (generateProgram table { job with stages := first ++ second }).1 = .ok program ↔
      ∃ a b, (generateProgram table { job with stages := first }).1 = .ok a ∧
        (generateProgram table { job with stages := second }).1 = .ok b ∧ program = a ++ b := by
  simp only [generateProgram_ok_iff, List.forall_mem_append, List.filterMap_append]
  constructor
  · rintro ⟨⟨before, after⟩, rfl⟩
    exact ⟨_, _, ⟨before, rfl⟩, ⟨after, rfl⟩, rfl⟩
  · rintro ⟨a, b, ⟨before, rfl⟩, ⟨after, rfl⟩, rfl⟩
    exact ⟨⟨before, after⟩, rfl⟩

/-- A stage by itself has one fragment, if it is not refused. -/
theorem generateProgram_single {stage : Stage}
    (accepted : ¬Refused table.orStandard job.settings stage) :
    ∃ kind, table.orStandard.get? stage.kind = some kind ∧
      (generateProgram table { job with stages := [stage] }).1 =
        .ok [fragment kind ⟨stage, job.settings⟩] := by
  cases known : table.orStandard.get? stage.kind with
  | none => exact absurd (.inl known) accepted
  | some kind =>
    refine ⟨kind, rfl, generateProgram_ok_iff.mpr ⟨?_, ?_⟩⟩
    · exact List.forall_mem_singleton.mpr accepted
    · simp [fragment?, known]

/-- The lines of a stage are those that it has alone, if every kind has its own generator. -/
theorem stageText_of_known {kind : StageKind} {stage : Stage} {settings : Settings}
    (known : Table.standard.get? stage.kind = some kind)
    (accepted : ¬Refused Table.standard settings stage) :
    stageText settings stage =
      .ok ("\n".intercalate (fragment kind ⟨stage, settings⟩).code.texts) := by
  have fits : excess? kind ⟨stage, settings⟩ = none :=
    Option.eq_none_iff_forall_not_mem.mpr fun e large => accepted (.inr ⟨e, kind, known, large⟩)
  have made : (generateStage .standard settings stage).1 =
      .ok (fragment kind ⟨stage, settings⟩) := by
    rw [generateStage_eq known, generateView_ok_iff.mpr ⟨fits, rfl⟩]
  rw [stageText, made]
  simp [Except.map, Program.lines]

theorem kinds_sorted (table : Table) :
    table.kinds.Pairwise (· ≤ ·) ∧ table.kinds.Perm table.keys := by
  have transitive (a b c : String) (first : decide (a ≤ b) = true)
      (second : decide (b ≤ c) = true) : decide (a ≤ c) = true :=
    decide_eq_true (String.le_trans (of_decide_eq_true first) (of_decide_eq_true second))
  have total (a b : String) : (decide (a ≤ b) || decide (b ≤ a)) = true := by
    rcases String.le_total a b with below | above
    · simp [below]
    · simp [above]
  have sorted := List.pairwise_mergeSort transitive total table.keys
  exact ⟨sorted.imp fun related => of_decide_eq_true related, List.mergeSort_perm _ _⟩

end Whole

/-- How the generation of a job goes with the stages `first ++ second`. -/
structure Composes (table : Table) (job : Job) (first second : List Stage) : Prop where
  /-- There is an error exactly if some stage is refused, and the first such stage decides. -/
  fails_iff : (∃ e, (generateProgram table { job with stages := first ++ second }).1 = .error e) ↔
    ∃ stage ∈ first ++ second, Refused table.orStandard job.settings stage
  /-- The error tells the first stage of a missing kind and the kinds there are, in their order. -/
  unknown : ∀ e, (generateProgram table { job with stages := first ++ second }).1 =
      .error (.emission e) ↔
    ∃ stage, IsFirst (Refused table.orStandard job.settings) (first ++ second) stage ∧
      Unknown table.orStandard stage ∧
      e = .unknownKind stage.cid stage.kind table.orStandard.kinds
  kinds : table.orStandard.kinds.Pairwise (· ≤ ·) ∧
    table.orStandard.kinds.Perm table.orStandard.keys
  /-- A parameter that cannot be written out counts unless a kind was missing before it. -/
  unwritable : ∀ e, (generateProgram table { job with stages := first ++ second }).1 =
      .error (.excess e) ↔
    ∃ stage, IsFirst (Refused table.orStandard job.settings) (first ++ second) stage ∧
      Unwritable table.orStandard job.settings stage e
  /-- The fragments are those of the first stages and then those of the second. -/
  append : ∀ program,
    (generateProgram table { job with stages := first ++ second }).1 = .ok program ↔
      ∃ a b, (generateProgram table { job with stages := first }).1 = .ok a ∧
        (generateProgram table { job with stages := second }).1 = .ok b ∧ program = a ++ b
  /-- Each fragment is that of its stage alone, in any job with the same settings. -/
  alone : ∀ program,
    (generateProgram table { job with stages := first ++ second }).1 = .ok program →
      List.Forall₂ (fun stage fragment =>
        (∀ other : Job, other.settings = job.settings →
          (generateProgram table { other with stages := [stage] }).1 = .ok [fragment]) ∧
        (table.orStandard = .standard →
          stageText job.settings stage = .ok ("\n".intercalate fragment.code.texts)))
        (first ++ second) program

/-- Generation is compositional, whatever table of generators is used. -/
theorem generation_composes (table : Table) (job : Job) (first second : List Stage) :
    Composes table job first second := by
  refine ⟨?fails, fun e => ?unknown, kinds_sorted _, fun e => ?unwritable,
    fun _ => generateProgram_append, fun program made => ?alone⟩
  case fails =>
    constructor
    · rintro ⟨e, failed⟩
      obtain ⟨stage, isFirst, -⟩ := generateProgram_error_iff.mp failed
      exact exists_isFirst_iff.mp ⟨stage, isFirst⟩
    · rintro ⟨stage, member, refused⟩
      cases made : (generateProgram table { job with stages := first ++ second }).1 with
      | error e => exact ⟨e, rfl⟩
      | ok program => exact absurd refused ((generateProgram_ok_iff.mp made).1 stage member)
  case unknown =>
    rw [generateProgram_error_iff]
    simp only [refusal?_unknown_iff]
  case unwritable =>
    rw [generateProgram_error_iff]
    simp only [refusal?_unwritable_iff]
  case alone =>
    obtain ⟨accepted, rfl⟩ := generateProgram_ok_iff.mp made
    generalize first ++ second = stages at accepted
    induction stages with
    | nil => exact .nil
    | cons stage rest ih =>
      obtain ⟨here, later⟩ := List.forall_mem_cons.mp accepted
      obtain ⟨kind, known, -⟩ := @generateProgram_single table job stage here
      rw [List.filterMap_cons, fragment?, known]
      refine .cons ⟨fun other same => ?_, fun standard => ?_⟩ (ih later)
      · obtain ⟨found, looked, single⟩ := @generateProgram_single table other stage (same ▸ here)
        obtain rfl := Option.some.inj (known.symm.trans looked)
        rw [single, same]
      · rw [standard] at known here
        exact stageText_of_known known here

/-- A table with a generator for connections only. -/
def connectionsOnly : Table := [("connection", .connection)]

/-- A stage that gets a connection to an address with too many digits. -/
def oversizedStage : Stage where
  cid := "c"
  params := [(.text "url", .int (Nat.pow 10 Excess.mostDigits))]

/-- A kind that is missing is not always told: an address with too many digits comes first. -/
theorem unknown_kind_not_told :
    ¬∀ (table : Table) (job : Job) (first second : List Stage),
      (∃ e, (generateProgram table { job with stages := first ++ second }).1 =
          .error (.emission e)) ↔
        ∃ stage ∈ first ++ second, Unknown table.orStandard stage := by
  intro told_iff_unknown
  let job : Job := { name := "j" }
  let other : Stage := { cid := "d", kind := "commit" }
  have refused : refusal? connectionsOnly.orStandard job.settings oversizedStage =
      some (.excess .digits) := by decide +kernel
  have unknown : Unknown connectionsOnly.orStandard other := rfl
  obtain ⟨e, failed⟩ := (told_iff_unknown connectionsOnly job [oversizedStage] [other]).mpr
    ⟨other, List.mem_append_right _ (List.mem_singleton_self _), unknown⟩
  rw [generateProgram_stages, List.singleton_append, List.findSome?_cons, refused] at failed
  exact nomatch failed

end Stagewright.Generation
