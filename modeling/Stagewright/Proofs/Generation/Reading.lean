import Stagewright.Proofs.Code.Reading
import Stagewright.Proofs.Generation.Acceptance
import Stagewright.Proofs.Generation.Sources
import Stagewright.Proofs.Text.Identifier
import Stagewright.Proofs.Value.Dict
import Stagewright.Proofs.Value.Spelling

/-!
The module of a job gives back the code of its stages, as long as no text of the job brings a
newline of its own.
-/

namespace Stagewright

open Text

/-- A stage of which no component, parameter or encrypted form is a text with a newline. -/
structure Stage.OneLine (stage : Stage) : Prop where
  component : Text.OneLine stage.component
  params : ∀ entry ∈ stage.params, ∀ s, entry.2 = .text s → Text.OneLine s
  encrypted : ∀ entry ∈ stage.encrypted, Text.OneLine entry.2

structure Job.OneLine (job : Job) : Prop where
  name : Text.OneLine job.name
  stages : ∀ stage ∈ job.stages, stage.OneLine

theorem Text.isIdentifier_oneLine {s : String} (identifier : isIdentifier s) : OneLine s :=
  isIdentifier_not_mem identifier (by decide) (by decide)

namespace Stage.OneLine

variable {stage : Stage} (one : stage.OneLine) (settings : Settings)

include one

theorem get (key : String) : Text.OneLine (View.get ⟨stage, settings⟩ key) := by
  unfold View.get
  split
  · decide
  · decide
  · split <;> decide
  · rename_i v _ _ found
    obtain ⟨entry, member, rfl⟩ := Dict.mem_of_get? found
    exact Value.oneLine_spell (one.params entry member)

theorem encryptedText (key : String) : Text.OneLine (View.encryptedText ⟨stage, settings⟩ key) := by
  unfold View.encryptedText
  cases found : Dict.get? stage.encrypted (.text key) with
  | none => decide
  | some s =>
    obtain ⟨entry, member, rfl⟩ := Dict.mem_of_get? found
    exact one.encrypted entry member

theorem view (identifier : isIdentifier stage.cid) : View.OneLine ⟨stage, settings⟩ where
  cid := isIdentifier_oneLine identifier
  component := by
    change Text.OneLine stage.family
    unfold Stage.family
    split
    · exact isIdentifier_oneLine identifier
    · exact one.component
  held := by
    rintro s (key | key | key)
    · exact one.get settings key
    · exact (one.get settings key).trim
    · exact one.encryptedText settings key

end Stage.OneLine

namespace Generation

open Code

theorem fragment_readable {stage : Stage} {settings : Settings}
    (identifier : isIdentifier stage.cid) (one : stage.OneLine) (kind : StageKind) :
    (fragment kind ⟨stage, settings⟩).Readable := by
  have view := one.view settings identifier
  exact {
    cid := view.cid
    plain := isIdentifier_not_mem identifier (by decide) (by decide)
    component := view.component
    filled := stageCode_lines_ne_empty kind _
    lines := stageCode_oneLine kind view }

/-- Every fragment of a job that has been read can be told from its text. -/
theorem Generates.readable {job : Job} {program : Program} (accepted : job.Accepted)
    (one : job.OneLine) (generates : Generates job.settings job.stages program) :
    ∀ fragment ∈ program, fragment.Readable := by
  intro result member
  obtain ⟨stage, held, kind, -, rfl⟩ := generates.stage_of_mem member
  exact fragment_readable (accepted.identifiers stage held) (one.stages stage held) kind

/-- A job that has been read gives a module exactly if all that is looked at can be written out, and
the fragments of its stages can be read back from the text of the module. -/
theorem read_job_read_back {document overrides environment : Mapping} {source : Option String}
    {job : Job} (read : (Job.read document overrides environment source).1 = .ok job)
    (one : job.OneLine) :
    ((∃ text, (generate .standard job).1 = .ok text) ↔ WritesOut job) ∧
      (generate .standard job).1.map sections? =
        (generateProgram .standard job).1.map fun program => some (program.map Fragment.shown) := by
  have accepted := Job.read_accepted read
  rw [← exists_generated_iff accepted]
  cases made : (generateProgram .standard job).1 with
  | ok program =>
    have generates := (generates_of_ok accepted made).2
    have back := Program.sections?_module (generates.readable accepted one) one.name
    simp only [generate, made]
    exact ⟨⟨fun _ => ⟨_, rfl⟩, fun _ => ⟨_, rfl⟩⟩, congrArg Except.ok back⟩
  | error e => simp [generate, made, Except.map]

/-- A document of a stage that gets a connection and one that commits on it, with a blank and
brackets in the name of a component. -/
def committingDocument : Mapping :=
  [(.text "job", .text "j"),
    (.text "stages", .list [
      .map [(.text "cid", .text "c"), (.text "component", .text "tDB (main)"),
        (.text "params", .map [(.text "url", .text "\"jdbc:h2:mem\"")])],
      .map [(.text "cid", .text "d"), (.text "kind", .text "commit"),
        (.text "params", .map [(.text "connection", .text "c")])]])]

def committingJob : Job where
  name := "j"
  stages := [{
      cid := "c"
      component := "tDB (main)"
      params := StageKind.connection.defaults.update [(.text "url", .text "\"jdbc:h2:mem\"")] },
    { cid := "d"
      kind := "commit"
      params := StageKind.commit.defaults.update [(.text "connection", .text "c")] }]

/-- The stages of the document are read back from its module. -/
theorem committing_job_read_back :
    (Job.read committingDocument [] [] none).1 = .ok committingJob ∧ committingJob.OneLine ∧
      (∃ text, (generate .standard committingJob).1 = .ok text) ∧
      (generate .standard committingJob).1.map sections? =
        (generateProgram .standard committingJob).1.map
          fun program => some (program.map Fragment.shown) := by
  have read : (Job.read committingDocument [] [] none).1 = .ok committingJob := rfl
  have written {s t : String} (one : Text.OneLine t) (same : Value.text t = .text s) :
      Text.OneLine s := by
    cases same
    exact one
  have one : committingJob.OneLine := by
    refine ⟨by decide, List.forall_mem_cons.mpr ⟨?_, List.forall_mem_singleton.mpr ?_⟩⟩
    · refine ⟨by decide, List.forall_mem_cons.mpr ⟨nofun, List.forall_mem_cons.mpr ⟨nofun, ?_⟩⟩,
        List.forall_mem_nil _⟩
      exact List.forall_mem_singleton.mpr fun s => written (by decide)
    · refine ⟨by decide, List.forall_mem_cons.mpr ⟨nofun, ?_⟩, List.forall_mem_nil _⟩
      exact List.forall_mem_singleton.mpr fun s => written (by decide)
  obtain ⟨generated, back⟩ := read_job_read_back read one
  exact ⟨read, one, generated.mpr (writesOut_of_none_refused (by decide +kernel)), back⟩

end Generation

end Stagewright
