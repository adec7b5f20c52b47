import Mathlib.Data.List.Forall2
import Mathlib.Data.List.TakeWhile
import Stagewright.Proofs.Generation.Vocabulary
import Stagewright.Proofs.Job.Accepted

/-!
What has been read as a job can be generated, stage by stage. Only a value that is too large to be
written out stands in the way.
-/

namespace Stagewright.Generation

open Code

/-- A fragment that goes by the names of a stage, and does not leave a line empty. -/
structure StandsFor (stage : Stage) (fragment : Fragment) : Prop where
  cid : fragment.cid = stage.cid
  component : fragment.component = stage.family
  code : fragment.code ≠ []
  lines : ∀ line ∈ fragment.code.texts, line ≠ ""

/-- Every stage has a first line. -/
theorem stageCode_ne_nil (kind : StageKind) (view : View) : stageCode kind view ≠ [] := by
  cases kind with
  | connection =>
    obtain ⟨steps, route⟩ : ∃ steps, (request view).mode.route = .init :: steps := by
      cases (request view).mode <;> exact ⟨_, rfl⟩
    simp [stageCode, route, Connection.Request.code_eq, ofStatements]
  | commit => simp [stageCode, effectCode_eq, ofStatements]
  | rollback => simp [stageCode, effectCode_eq, ofStatements]
  | close => simp [stageCode, effectCode_eq, ofStatements]

theorem stageCode_lines_ne_empty (kind : StageKind) (view : View) :
    ∀ line ∈ (stageCode kind view).texts, line ≠ "" := by
  intro text member empty
  obtain ⟨line, found, rfl⟩ := List.mem_map.mp member
  obtain ⟨c, begins, -⟩ :=
    line.text_begins (stageCode_allowed kind view line found).not_verbatim
  simp [empty] at begins

/-- The fragments of stages, each by the generator of its own kind. -/
def Generates (settings : Settings) (stages : List Stage) (program : Program) : Prop :=
  List.Forall₂ (fun stage result => ∃ kind, StageKind.ofName? stage.kind = some kind ∧
    result = fragment kind ⟨stage, settings⟩) stages program

/-- The fragment at a position is that of the stage there. -/
theorem Generates.getElem? {settings : Settings} {stages : List Stage}
    {program : Program} (generates : Generates settings stages program) (i : Nat)
    (fragment : Fragment) :
    program[i]? = some fragment ↔ ∃ stage kind, stages[i]? = some stage ∧
      StageKind.ofName? stage.kind = some kind ∧
      fragment = Generation.fragment kind ⟨stage, settings⟩ := by
  induction generates generalizing i with
  | nil => simp
  | cons first _ ih =>
    obtain ⟨kind, named, rfl⟩ := first
    cases i with
    | zero => simp [named, eq_comm]
    | succ i => simpa using ih i

/-- Every fragment is that of one of the stages. -/
theorem Generates.stage_of_mem {settings : Settings} {stages : List Stage} {program : Program}
    (generates : Generates settings stages program) {result : Fragment}
    (member : result ∈ program) :
    ∃ stage ∈ stages, ∃ kind, StageKind.ofName? stage.kind = some kind ∧
      result = fragment kind ⟨stage, settings⟩ := by
  obtain ⟨i, place⟩ := List.mem_iff_getElem?.mp member
  obtain ⟨stage, kind, found, named, same⟩ := (generates.getElem? i result).mp place
  exact ⟨stage, List.mem_of_getElem? found, kind, named, same⟩

theorem Generates.standsFor {settings : Settings} {stages : List Stage} {program : Program}
    (generates : Generates settings stages program) : List.Forall₂ StandsFor stages program := by
  refine List.Forall₂.imp ?_ generates
  rintro stage result ⟨kind, -, rfl⟩
  exact ⟨rfl, rfl, stageCode_ne_nil kind _, stageCode_lines_ne_empty kind _⟩

/-- Whatever the generator of a stage looks at can be written out. -/
def WritesOut (job : Job) : Prop :=
  ∀ stage ∈ job.stages, ∀ kind, StageKind.ofName? stage.kind = some kind →
    ∀ key ∈ generationKeys kind ⟨stage, job.settings⟩, ∀ v, stage.params.get? key = some v →
      v.isWritable

/-- A stage of a job has too much of something in a parameter that its generator looks at. -/
def Exceeds (job : Job) (e : Excess) : Prop :=
  ∃ stage ∈ job.stages, ∃ kind, StageKind.ofName? stage.kind = some kind ∧
    excess? kind ⟨stage, job.settings⟩ = some e

theorem writesOut_iff {job : Job} : WritesOut job ↔ ∀ e, ¬Exceeds job e := by
  have each (stage : Stage) (kind : StageKind) :=
    @View.excess?_eq_none_iff ⟨stage, job.settings⟩ (generationKeys kind ⟨stage, job.settings⟩)
  constructor
  · rintro writesOut e ⟨stage, member, kind, named, large⟩
    have fits := (each stage kind).mpr (writesOut stage member kind named)
    exact nomatch fits.symm.trans large
  · intro fits stage member kind named
    refine (each stage kind).mp (Option.eq_none_iff_forall_not_mem.mpr fun e large => ?_)
    exact fits e ⟨stage, member, kind, named, large⟩

theorem writesOut_of_none_refused {job : Job}
    (accepted : job.stages.findSome? (refusal? .standard job.settings) = none) :
    WritesOut job := by
  refine writesOut_iff.mpr ?_
  rintro e ⟨stage, member, kind, named, large⟩
  have fits := List.findSome?_eq_none_iff.mp accepted stage member
  simp [refusal?, standard_get?, named, large] at fits

section Known

variable {settings : Settings} {stages : List Stage}
  (known : ∀ stage ∈ stages, (StageKind.ofName? stage.kind).isSome)

include known

theorem generates_filterMap :
    Generates settings stages (stages.filterMap (fragment? .standard settings)) := by
  induction stages with
  | nil => exact .nil
  | cons stage rest ih =>
    obtain ⟨here, later⟩ := List.forall_mem_cons.mp known
    obtain ⟨kind, named⟩ := Option.isSome_iff_exists.mp here
    have first : fragment? .standard settings stage = some (fragment kind ⟨stage, settings⟩) := by
      rw [fragment?, standard_get?, named, Option.map_some]
    rw [List.filterMap_cons_some first]
    exact .cons ⟨kind, named, rfl⟩ (ih later)

/-- Only for what is too much in it is a stage of a known kind refused. -/
theorem excess_of_refused {e : GenerationError}
    (refused : stages.findSome? (refusal? .standard settings) = some e) :
    ∃ stage ∈ stages, ∃ kind, StageKind.ofName? stage.kind = some kind ∧
      ∃ large, excess? kind ⟨stage, settings⟩ = some large ∧ e = .excess large := by
  obtain ⟨stage, member, here⟩ := List.exists_of_findSome?_eq_some refused
  obtain ⟨kind, named⟩ := Option.isSome_iff_exists.mp (known stage member)
  rw [refusal?, standard_get?, named] at here
  obtain ⟨large, found, rfl⟩ := Option.map_eq_some_iff.mp here
  exact ⟨stage, member, kind, named, large, found, rfl⟩

end Known

/-- Either all that is looked at in a job can be written out, and every stage is generated, or the
job fails for what cannot. -/
theorem generateProgram_cases {job : Job} (accepted : job.Accepted) :
    (WritesOut job ∧ ∃ program, (generateProgram .standard job).1 = .ok program ∧
        Generates job.settings job.stages program) ∨
      ¬WritesOut job ∧
        ∃ e, Exceeds job e ∧ (generateProgram .standard job).1 = .error (.excess e) := by
  have generates := @generates_filterMap job.settings _ accepted.known
  rw [generateProgram_eq, standard_orStandard, generateStages_eq]
  cases refused : job.stages.findSome? (refusal? .standard job.settings) with
  | none => exact .inl ⟨writesOut_of_none_refused refused, _, rfl, generates⟩
  | some e =>
    obtain ⟨stage, member, kind, named, large, found, rfl⟩ :=
      excess_of_refused accepted.known refused
    have exceeds : Exceeds job large := ⟨stage, member, kind, named, found⟩
    exact .inr ⟨fun writesOut => writesOut_iff.mp writesOut large exceeds, large, exceeds, rfl⟩

/-- What has been generated of a job that has been read are the fragments of its stages. -/
theorem generates_of_ok {job : Job} (accepted : job.Accepted) {program : Program}
    (made : (generateProgram .standard job).1 = .ok program) :
    WritesOut job ∧ Generates job.settings job.stages program := by
  rcases generateProgram_cases accepted with ⟨writesOut, found, run, generates⟩ | ⟨-, e, -, failed⟩
  · obtain rfl := Except.ok.inj (run.symm.trans made)
    exact ⟨writesOut, generates⟩
  · exact nomatch failed.symm.trans made

theorem exists_generated_iff {job : Job} (accepted : job.Accepted) :
    (∃ program, (generateProgram .standard job).1 = .ok program) ↔ WritesOut job := by
  refine ⟨fun ⟨program, made⟩ => (generates_of_ok accepted made).1, fun writesOut => ?_⟩
  rcases generateProgram_cases accepted with ⟨-, program, run, -⟩ | ⟨notWritesOut, -⟩
  · exact ⟨program, run⟩
  · exact absurd writesOut notWritesOut

/-- A job that has been read is generated exactly if all that is looked at can be written out, and
nothing else makes it fail. Then each stage has its fragment, in the order of the stages. -/
theorem read_job_generated {document overrides environment : Mapping} {source : Option String}
    {job : Job} (read : (Job.read document overrides environment source).1 = .ok job) :
    (∀ e, (generateProgram .standard job).1 = .error e →
        ∃ large, Exceeds job large ∧ e = .excess large) ∧
      ((∃ program, (generateProgram .standard job).1 = .ok program) ↔ WritesOut job) ∧
      ∀ program, (generateProgram .standard job).1 = .ok program →
        List.Forall₂ StandsFor job.stages program := by
  have accepted := Job.read_accepted read
  refine ⟨fun e refused => ?_, exists_generated_iff accepted,
    fun program made => (generates_of_ok accepted made).2.standsFor⟩
  rcases generateProgram_cases accepted with ⟨-, program, run, -⟩ | ⟨-, large, exceeds, failed⟩
  · exact nomatch run.symm.trans refused
  · exact ⟨large, exceeds, (Except.error.inj (failed.symm.trans refused)).symm⟩

/-- A document with a single stage, which gets a connection to an address. -/
def documentTo (address : Value) : Mapping :=
  [(.text "job", .text "j"),
    (.text "stages", .list [.map
      [(.text "cid", .text "c"), (.text "params", .map [(.text "url", address)])]])]

/-- The job in the document. -/
def jobTo (address : Value) : Job where
  name := "j"
  stages := [{
    cid := "c"
    params := StageKind.connection.defaults.update [(.text "url", address)] }]

/-- A job whose address is a text is read and generated. -/
theorem text_address_generated :
    (Job.read (documentTo (.text "\"jdbc:h2:mem\"")) [] [] none).1 =
        .ok (jobTo (.text "\"jdbc:h2:mem\"")) ∧
      ∃ program, (generateProgram .standard (jobTo (.text "\"jdbc:h2:mem\""))).1 = .ok program ∧
        List.Forall₂ StandsFor (jobTo (.text "\"jdbc:h2:mem\"")).stages program := by
  have read : (Job.read (documentTo (.text "\"jdbc:h2:mem\"")) [] [] none).1 =
      .ok (jobTo (.text "\"jdbc:h2:mem\"")) := rfl
  obtain ⟨failed, -, stands⟩ := read_job_generated read
  cases made : (generateProgram .standard (jobTo (.text "\"jdbc:h2:mem\""))).1 with
  | ok program => exact ⟨read, program, rfl, stands program made⟩
  | error e =>
    obtain ⟨large, ⟨stage, member, kind, named, found⟩, -⟩ := failed e made
    obtain rfl := List.mem_singleton.mp member
    obtain rfl : StageKind.connection = kind := Option.some.inj named
    have fits : excess? .connection
        ⟨(jobTo (.text "\"jdbc:h2:mem\"")).stages.head (by decide), {}⟩ = none := by
      decide +kernel
    exact nomatch fits.symm.trans found

/-- A job whose address has too many digits is read, and cannot be generated. -/
theorem oversized_address_not_generated :
    (Job.read (documentTo (.int (Nat.pow 10 Excess.mostDigits))) [] [] none).1 =
        .ok (jobTo (.int (Nat.pow 10 Excess.mostDigits))) ∧
      (generateProgram .standard (jobTo (.int (Nat.pow 10 Excess.mostDigits)))).1 =
        .error (.excess .digits) := by
  let job : Job := jobTo (.int (Nat.pow 10 Excess.mostDigits))
  have refused : job.stages.findSome? (refusal? .standard job.settings) =
      some (.excess .digits) := by decide +kernel
  refine ⟨rfl, ?_⟩
  rw [generateProgram_eq, standard_orStandard, generateStages_eq, refused]

end Stagewright.Generation
