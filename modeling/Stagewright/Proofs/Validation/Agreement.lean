import Stagewright.Proofs.Generation.Acceptance
import Stagewright.Proofs.Generation.Published
import Stagewright.Proofs.Validation.References

/-!
The checks of a job and its generated program agree on which references will be found.
-/

namespace Stagewright

open Code Connection Generation

theorem StageKind.ofName?_eq_some_iff {name : String} {kind : StageKind} :
    StageKind.ofName? name = some kind ↔ name = kind.name := by
  constructor
  · intro named
    have found : StageKind.all.find? (fun k => decide (k.name = name)) = some kind := named
    have same := List.find?_some found
    exact (of_decide_eq_true same).symm
  · rintro rfl
    cases kind <;> rfl

theorem StageKind.ofName?_connection {name : String} :
    StageKind.ofName? name = some .connection ↔ name = StageKind.connection.name :=
  StageKind.ofName?_eq_some_iff

namespace Validation

theorem mem_registered_take {stages : List Stage} {i : Nat} {cid : String} :
    cid ∈ registered (stages.take i) ↔ ∃ j < i, ∃ stage, stages[j]? = some stage ∧
      StageKind.ofName? stage.kind = some .connection ∧ cid = stage.cid := by
  simp only [registered, List.mem_map, List.mem_filter, decide_eq_true_eq,
    StageKind.ofName?_connection]
  constructor
  · rintro ⟨stage, ⟨taken, connection⟩, rfl⟩
    obtain ⟨j, place⟩ := List.mem_iff_getElem?.mp taken
    rw [List.getElem?_take] at place
    split at place
    · exact ⟨j, ‹_›, stage, place, connection, rfl⟩
    · exact absurd place (by simp)
  · rintro ⟨j, earlier, stage, place, connection, rfl⟩
    refine ⟨stage, ⟨List.mem_iff_getElem?.mpr ⟨j, ?_⟩, connection⟩, rfl⟩
    rw [List.getElem?_take, if_pos earlier, place]

/-- The kinds of stages that end the work on a connection. -/
def endingKinds : List String := ["commit", "rollback", "close"]

theorem ending_ne_connection {kind : String} (ending : kind ∈ endingKinds) :
    kind ≠ StageKind.connection.name := by
  rintro rfl
  exact absurd ending (by decide)

/-- A connection is among those of the stages before a position exactly if a fragment before it
publishes the connection. -/
theorem mem_registered_iff_published {settings : Settings} {stages : List Stage}
    {program : Program} (generates : Generates settings stages program) {i : Nat}
    {owner : String} :
    owner ∈ registered (stages.take i) ↔ ∃ j < i, ∃ fragment, program[j]? = some fragment ∧
      registrationLine owner ∈ fragment.code.texts := by
  rw [mem_registered_take]
  constructor
  · rintro ⟨j, earlier, stage, place, connection, rfl⟩
    have generated := (generates.getElem? j _).mpr ⟨stage, .connection, place, connection, rfl⟩
    exact ⟨j, earlier, _, generated, registrationLine_mem ⟨stage, settings⟩⟩
  · rintro ⟨j, earlier, fragment, generated, published⟩
    obtain ⟨stage, kind, place, named, rfl⟩ := (generates.getElem? j fragment).mp generated
    obtain ⟨rfl, rfl⟩ := registrationLine_mem_iff.mp published
    exact ⟨j, earlier, stage, place, named, rfl⟩

/-- No two fragments publish under the key of one connection. -/
theorem registering_unique {job : Job} (accepted : job.Accepted) {program : Program}
    (generates : Generates job.settings job.stages program) {owner : String}
    (identifier : Text.isIdentifier owner) {i j : Nat} {first second : Fragment}
    (atFirst : program[i]? = some first) (atSecond : program[j]? = some second)
    (byFirst : ∃ line ∈ first.code.texts, Registers (Role.conn.key owner) line)
    (bySecond : ∃ line ∈ second.code.texts, Registers (Role.conn.key owner) line) : i = j := by
  have own {i : Nat} {fragment : Fragment} (generated : program[i]? = some fragment)
      (registers : ∃ line ∈ fragment.code.texts, Registers (Role.conn.key owner) line) :
      job.cids[i]? = some owner := by
    obtain ⟨stage, kind, place, -, rfl⟩ := (generates.getElem? i fragment).mp generated
    have identified := accepted.identifiers stage (List.mem_of_getElem? place)
    have plain := Text.isIdentifier_no_quote identifier
    obtain ⟨-, same⟩ := (@registers_conn_iff kind ⟨stage, job.settings⟩ owner plain
      (Text.isIdentifier_no_quote identified)).mp registers
    rw [same, Job.cids, List.getElem?_map, place]
    rfl
  have atOwner := own atFirst byFirst
  have inRange := (List.getElem?_eq_some_iff.mp atOwner).1
  have same := atOwner.trans (own atSecond bySecond).symm
  exact (List.getElem?_inj inRange accepted.distinct).mp same

/-- For a stage that ends the work on a connection the checks report its reference exactly if no
earlier fragment publishes the connection, wherever the checks and the generator come to an end at
all. A reference that is not reported is looked up, under a key that exactly one earlier fragment
publishes. -/
theorem reported_iff_unpublished {document overrides environment : Mapping}
    {source : Option String} {job : Job}
    (read : (Job.read document overrides environment source).1 = .ok job) :
    ((∃ result records, validate job = .ok (result, records)) ↔ excess? job = none) ∧
    ((∃ program, (generateProgram .standard job).1 = .ok program) ↔ WritesOut job) ∧
    ∀ result records program, validate job = .ok (result, records) →
      (generateProgram .standard job).1 = .ok program →
      ∀ (i : Nat) (stage : Stage), job.stages[i]? = some stage → stage.kind ∈ endingKinds →
        (Reported result stage ↔ ¬∃ j < i, ∃ fragment, program[j]? = some fragment ∧
          registrationLine (reference job stage) ∈ fragment.code.texts) ∧
        (¬Reported result stage →
          (∃ fragment, program[i]? = some fragment ∧
            lookupLine stage.cid (reference job stage) ∈ fragment.code.texts) ∧
          ∃! j, j < i ∧ ∃ fragment, program[j]? = some fragment ∧
            ∃ line ∈ fragment.code.texts,
              Registers (Role.conn.key (reference job stage)) line) := by
  have accepted := Job.read_accepted read
  refine ⟨by simp [validate_ok_iff], exists_generated_iff accepted, ?_⟩
  intro result records program checked made i stage place ending
  obtain ⟨-, rfl, -⟩ := validate_ok_iff.mp checked
  have generates := (generates_of_ok accepted made).2
  have reported := reported_iff accepted place (ending_ne_connection ending)
  have published := @mem_registered_iff_published _ _ _ generates i (reference job stage)
  refine ⟨reported.trans (not_congr published), fun unreported => ⟨?_, ?_⟩⟩
  · obtain ⟨kind, named⟩ := Option.isSome_iff_exists.mp
      (accepted.known stage (List.mem_of_getElem? place))
    have transactional : kind ≠ .connection := by
      rintro rfl
      exact ending_ne_connection ending (StageKind.ofName?_connection.mp named)
    exact ⟨_, (generates.getElem? i _).mpr ⟨stage, kind, place, named, rfl⟩,
      lookupLine_mem ⟨stage, job.settings⟩ kind transactional⟩
  · have known := not_not.mp fun unknown => unreported (reported.mpr unknown)
    obtain ⟨j, earlier, owner, ownerPlace, connection, same⟩ := mem_registered_take.mp known
    have identifier := accepted.identifiers owner (List.mem_of_getElem? ownerPlace)
    have plain := Text.isIdentifier_no_quote identifier
    have generated := (generates.getElem? j _).mpr ⟨owner, _, ownerPlace, connection, rfl⟩
    have registers := (@registers_conn_iff .connection ⟨owner, job.settings⟩ _ plain plain).mpr
      ⟨rfl, rfl⟩
    rw [same]
    refine ⟨j, ⟨earlier, _, generated, registers⟩, ?_⟩
    rintro k ⟨-, other, atOther, byOther⟩
    exact registering_unique accepted generates identifier atOther generated byOther registers

/-- A document with a stage that gets a connection and one that commits on it. -/
def commitDocument : Mapping :=
  [(.text "job", .text "j"),
    (.text "stages", .list [.map [(.text "cid", .text "c")],
      .map [(.text "cid", .text "d"), (.text "kind", .text "commit"),
        (.text "params", .map [(.text "connection", .text " c ")])]])]

def commitStage : Stage where
  cid := "d"
  kind := "commit"
  params := StageKind.commit.defaults.update [(.text "connection", .text " c ")]

/-- The job in the document. -/
def commitJob : Job where
  name := "j"
  stages := [{ cid := "c", params := StageKind.connection.defaults }, commitStage]

/-- The commit finds its connection, which the first fragment alone publishes. -/
theorem commit_reference_published :
    (Job.read commitDocument [] [] none).1 = .ok commitJob ∧
      ∃ result records program, validate commitJob = .ok (result, records) ∧
        (generateProgram .standard commitJob).1 = .ok program ∧ ¬Reported result commitStage ∧
        ∃! j, j < 1 ∧ ∃ fragment, program[j]? = some fragment ∧ ∃ line ∈ fragment.code.texts,
          Registers (Role.conn.key (reference commitJob commitStage)) line := by
  have read : (Job.read commitDocument [] [] none).1 = .ok commitJob := rfl
  have place : commitJob.stages[1]? = some commitStage := rfl
  obtain ⟨checks, generates, agree⟩ := reported_iff_unpublished read
  obtain ⟨result, records, checked⟩ := checks.mpr (by decide +kernel)
  obtain ⟨program, made⟩ := generates.mpr (writesOut_of_none_refused (by decide +kernel))
  have unreported : ¬Reported result commitStage := by
    obtain ⟨-, rfl, -⟩ := validate_ok_iff.mp checked
    rw [reported_iff (Job.read_accepted read) place (by decide)]
    decide
  obtain ⟨-, once⟩ := (agree result records program checked made 1 commitStage place
    (by decide)).2 unreported
  exact ⟨read, result, records, program, checked, made, unreported, once⟩

/-- A document with a stage that shares its connection, whose alias switch is a number that cannot
be written out, and a stage that commits on no connection. -/
def oversizedAliasDocument : Mapping :=
  [(.text "job", .text "j"),
    (.text "stages", .list [
      .map [(.text "cid", .text "a"), (.text "params", .map [
        (.text "use_shared_connection", .bool true),
        (.text "specify_datasource_alias", .int (Nat.pow 10 Excess.mostDigits))])],
      .map [(.text "cid", .text "d"), (.text "kind", .text "commit")]])]

def sharingStage : Stage where
  cid := "a"
  params := StageKind.connection.defaults.update [(.text "use_shared_connection", .bool true),
    (.text "specify_datasource_alias", .int (Nat.pow 10 Excess.mostDigits))]

def stray : Stage := { cid := "d", kind := "commit", params := StageKind.commit.defaults }

/-- The job in the document. -/
def oversizedAliasJob : Job := { name := "j", stages := [sharingStage, stray] }

/-- The reference of the commit goes unreported, although nobody publishes the connection: the
checks ask for the alias, which the generator has no use for. -/
theorem stray_reference_not_reported :
    (Job.read oversizedAliasDocument [] [] none).1 = .ok oversizedAliasJob ∧
      validate oversizedAliasJob = .error .digits ∧
      ∃ program, (generateProgram .standard oversizedAliasJob).1 = .ok program ∧
        ¬∃ j < 1, ∃ fragment, program[j]? = some fragment ∧
          registrationLine (reference oversizedAliasJob stray) ∈ fragment.code.texts := by
  have read : (Job.read oversizedAliasDocument [] [] none).1 = .ok oversizedAliasJob := rfl
  have accepted := Job.read_accepted read
  have unchecked : excess? oversizedAliasJob = some .digits := by decide +kernel
  obtain ⟨program, made⟩ := (exists_generated_iff accepted).mpr
    (writesOut_of_none_refused (by decide +kernel))
  refine ⟨read, by rw [validate_eq, unchecked], program, made, ?_⟩
  rw [← mem_registered_iff_published (generates_of_ok accepted made).2]
  decide +kernel

end Validation

end Stagewright
