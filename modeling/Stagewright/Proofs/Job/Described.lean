import Mathlib.Data.List.Forall2
import Stagewright.Proofs.Job.Entry
import Stagewright.Proofs.Job.Resolved
import Stagewright.Proofs.Text.Blank
import Stagewright.Proofs.Text.Identifier

/-!
A job is read from a document exactly if the document describes one: with a name, and with entries
that are stages of known kinds under cids of their own.
-/

namespace Stagewright.Job

open Attempt

/-- Each entry is a stage for itself, and the stages are checked against one another. -/
theorem checkStages_ok_iff {seen : List String} {position : Nat} {values : List Value}
    {stages : List Stage} :
    checkStages seen position values = .ok stages ↔
      List.Forall₂ (fun v stage => Stage.ofValue v = .ok stage) values stages ∧
        (∀ stage ∈ stages, stage.Accepted seen) ∧ (stages.map (·.cid)).Nodup := by
  constructor
  · intro checked
    refine ⟨?_, checkStages_accepted checked⟩
    induction values generalizing seen position stages with
    | nil =>
      obtain rfl : [] = stages := by simpa [checkStages] using checked
      exact .nil
    | cons v values ih =>
      simp only [checkStages, bind_ok, pure_ok] at checked
      obtain ⟨stage, first, rest, later, rfl⟩ := checked
      exact .cons (checkStage_ok_iff.mp first).1 (ih later)
  · rintro ⟨made, accepted, distinct⟩
    induction made generalizing seen position with
    | nil => rfl
    | @cons v stage values rest first later ih =>
      obtain ⟨here, behind⟩ := List.forall_mem_cons.mp accepted
      obtain ⟨apart, distinct⟩ := List.nodup_cons.mp distinct
      have others : ∀ other ∈ rest, other.Accepted (seen ++ [stage.cid]) := by
        intro other among
        have different : other.cid ≠ stage.cid :=
          fun same => apart (List.mem_map.mpr ⟨other, among, same⟩)
        refine ⟨(behind other among).known, (behind other among).identifier, ?_⟩
        simp [(behind other among).fresh, different]
      simp only [checkStages, bind_ok, pure_ok]
      exact ⟨stage, checkStage_ok_iff.mpr ⟨first, here⟩, rest, ih others distinct, rfl⟩

theorem ofResolved_ok_iff {resolved : Mapping} {source : Option String} {job : Job} :
    ofResolved resolved source = .ok job ↔
      nameOf resolved source = .ok job.name ∧
      (∃ values, stageValues (resolved.get? "stages") = .ok values ∧
        checkStages [] 1 values = .ok job.stages) ∧
      (∃ settings, Value.entries? (resolved.get? "globals") = some settings ∧
        job.settings = Settings.ofMapping settings) ∧
      job.source = source := by
  simp only [ofResolved, bind_ok]
  constructor
  · rintro ⟨name, named, values, listed, stages, checked, rest⟩
    split at rest
    case h_1 settings declared =>
      obtain rfl := pure_ok.mp rest
      exact ⟨named, ⟨values, listed, checked⟩, ⟨settings, declared, rfl⟩, rfl⟩
    case h_2 => exact (throw_ok.mp rest).elim
  · rintro ⟨named, ⟨values, listed, checked⟩, ⟨settings, declared, same⟩, rfl⟩
    refine ⟨_, named, values, listed, _, checked, ?_⟩
    rw [declared]
    refine pure_ok.mpr ?_
    rw [← same]

/-- A document, its references replaced, and a job that it describes. -/
structure Described (resolved : Mapping) (job : Job) : Prop where
  entries : ∃ values, stageValues (resolved.get? "stages") = .ok values ∧
    List.Forall₂ (fun v stage => ∃ entries, v = .map entries ∧ Stage.ComesFrom entries stage)
      values job.stages
  identifiers : ∀ stage ∈ job.stages, stage.cid ≠ "" ∧ Text.isIdentifier stage.cid
  distinct : job.cids.Nodup
  known : ∀ stage ∈ job.stages, ∃ kind : StageKind, stage.kind = kind.name

/-- A document, its references replaced, with a name that can be written out and with entries that
are stages of known kinds under cids of their own. -/
structure Readable (resolved : Mapping) (stages : List Stage) : Prop where
  name : ∃ v, Value.given? (resolved.get? "job") = some v ∧ v.isWritable = true ∧
    Text.trim v.spell ≠ ""
  entries : ∃ values, stageValues (resolved.get? "stages") = .ok values ∧
    List.Forall₂ (fun v stage => Stage.ofValue v = .ok stage) values stages
  identifiers : ∀ stage ∈ stages, Text.isIdentifier stage.cid
  distinct : (stages.map (·.cid)).Nodup
  known : ∀ stage ∈ stages, (StageKind.ofName? stage.kind).isSome

/-- The entries of stages are as well keyed as the document. -/
theorem stageValues_keyed {document : Mapping} (keyed : (Value.map document).Keyed)
    {values : List Value} (listed : stageValues (document.get? "stages") = .ok values) :
    ∀ v ∈ values, v.Keyed := by
  unfold stageValues at listed
  cases given : Value.given? (document.get? "stages") with
  | none =>
    rw [given] at listed
    obtain rfl := Except.ok.inj listed
    simp
  | some v =>
    have found : document.get? "stages" = some v := (Option.filter_eq_some_iff.mp given).1
    rw [given] at listed
    cases v with
    | list items =>
      obtain rfl := Except.ok.inj listed
      exact Value.keyed_list.mp (keyed.get? found)
    | _ => simp at listed

theorem ResolvesTo.keyed {document overrides environment resolved : Mapping}
    (resolves : ResolvesTo document overrides environment resolved)
    (keyed : (Value.map document).Keyed) : (Value.map resolved).Keyed := by
  obtain ⟨own, -, replaced⟩ := resolves
  obtain ⟨-, rfl⟩ := resolve_map_ok_iff.mp replaced
  obtain ⟨distinct, inside⟩ := Value.keyed_map.mp keyed
  have left : (Value.map (document.erase (.text "variables"))).Keyed := by
    refine .map (distinct.filter _) fun v among => ?_
    obtain ⟨entry, held, rfl⟩ := List.mem_map.mp among
    exact inside entry.2 (List.mem_map_of_mem (List.mem_filter.mp held).1)
  have := Variable.substituteValue_keyed (Variable.scopeOf environment own overrides) left
  rwa [Variable.substituteValue] at this

theorem described_of_read {document overrides environment : Mapping} {source : Option String}
    {job : Job} (keyed : (Value.map document).Keyed)
    (read : (Job.read document overrides environment source).1 = .ok job) :
    ∃ resolved, ResolvesTo document overrides environment resolved ∧ Described resolved job := by
  obtain ⟨resolved, resolves, -, made⟩ := read_ok_iff_resolved.mp read
  obtain ⟨-, ⟨values, listed, checked⟩, -, -⟩ := ofResolved_ok_iff.mp made
  obtain ⟨described, accepted, distinct⟩ := checkStages_ok_iff.mp checked
  have entriesKeyed := stageValues_keyed (resolves.keyed keyed) listed
  refine ⟨resolved, resolves, ⟨values, listed, ?_⟩, fun stage among => ?_, distinct,
    fun stage among => ?_⟩
  · refine (List.forall₂_and_left values job.stages).mpr ⟨entriesKeyed, described⟩ |>.imp ?_
    exact fun v stage both => Stage.ofValue_comesFrom both.2 both.1
  · have identifier := (accepted stage among).identifier
    exact ⟨Text.isIdentifier_ne_empty identifier, identifier⟩
  · obtain ⟨kind, found⟩ := Option.isSome_iff_exists.mp (accepted stage among).known
    exact ⟨kind, by simpa [eq_comm] using List.find?_some found⟩

theorem read_of_readable {document overrides environment resolved : Mapping}
    {stages : List Stage} (source : Option String)
    (resolves : ResolvesTo document overrides environment resolved)
    (declared : (Value.entries? (document.get? "globals")).isSome)
    (readable : Readable resolved stages) :
    ∃ job, (Job.read document overrides environment source).1 = .ok job ∧ job.stages = stages := by
  obtain ⟨name, given, writable, filled⟩ := readable.name
  obtain ⟨values, listed, made⟩ := readable.entries
  obtain ⟨settings, kept⟩ := resolves.settings declared
  let job : Job :=
    { name := Text.trim name.spell, stages, settings := Settings.ofMapping settings, source }
  have named : nameOf resolved source = .ok job.name := by
    simp [nameOf, given, job, filled]
  have checked : checkStages [] 1 values = .ok stages :=
    checkStages_ok_iff.mpr ⟨made, fun stage among =>
      ⟨readable.known stage among, readable.identifiers stage among, by simp⟩, readable.distinct⟩
  have fits : (Value.given? (resolved.get? "job")).bind Value.excess? = none := by
    simpa [given, Value.isWritable] using writable
  refine ⟨job, read_ok_iff_resolved.mpr ⟨resolved, resolves, fits, ?_⟩, rfl⟩
  exact ofResolved_ok_iff.mpr ⟨named, ⟨values, listed, checked⟩, ⟨settings, kept, rfl⟩, rfl⟩

/-- A job that is read is one that its document describes, and a document that describes stages and
has a name to write out is read as a job of these. -/
theorem read_job_described (document overrides environment : Mapping) (source : Option String)
    (keyed : (Value.map document).Keyed) :
    (∀ job, (Job.read document overrides environment source).1 = .ok job →
      ∃ resolved, ResolvesTo document overrides environment resolved ∧ Described resolved job) ∧
    ∀ resolved stages, ResolvesTo document overrides environment resolved →
      (Value.entries? (document.get? "globals")).isSome → Readable resolved stages →
      ∃ job, (Job.read document overrides environment source).1 = .ok job ∧
        job.stages = stages :=
  ⟨fun _ read => described_of_read keyed read,
    fun _ _ resolves declared readable => read_of_readable source resolves declared readable⟩

/-- A document of one stage, whose cid is a variable. -/
def oneStage : Mapping :=
  [(.text "job", .text "nightly"), (.text "variables", .map [(.text "id", .text "orders")]),
    (.text "stages", .list [.map [(.text "cid", .text "$\x7bid\x7d"),
      (.text "params", .map [(.text "auto_commit", .bool true)])]])]

/-- The stage keeps the default for what its entry does not mention. -/
theorem read_one_described :
    ∃ job, (Job.read oneStage [] [] none).1 = .ok job ∧
      job.stages = [{
        cid := "orders"
        params := [(.text "use_transaction", .bool true), (.text "auto_commit", .bool true)] }] ∧
      ∃ resolved, ResolvesTo oneStage [] [] resolved ∧ Described resolved job := by
  have keyed : (Value.map oneStage).Keyed := by
    have params : (Value.map [(.text "auto_commit", .bool true)]).Keyed :=
      .map (by decide) (by simpa using .leaf rfl)
    have entry : (Value.map [(.text "cid", .text "$\x7bid\x7d"),
        (.text "params", .map [(.text "auto_commit", .bool true)])]).Keyed :=
      .map (by decide) (by simpa using ⟨.text, params⟩)
    have own : (Value.map [(.text "id", .text "orders")]).Keyed :=
      .map (by decide) (by simpa using .text)
    exact .map (by decide) (by simpa [oneStage] using ⟨.text, own, .list (by simpa using entry)⟩)
  obtain ⟨described, described_read⟩ := read_job_described oneStage [] [] none keyed
  let resolved : Mapping :=
    [(.text "job", .text "nightly"), (.text "stages", .list [.map [(.text "cid", .text "orders"),
      (.text "params", .map [(.text "auto_commit", .bool true)])]])]
  have resolves : ResolvesTo oneStage [] [] resolved :=
    ⟨[(.text "id", .text "orders")], rfl, rfl⟩
  obtain ⟨job, read, stages⟩ := described_read resolved _ resolves rfl
    { name := ⟨.text "nightly", rfl, rfl, by decide⟩
      entries := ⟨_, rfl, .cons rfl .nil⟩
      identifiers := List.forall_mem_singleton.mpr (by decide +kernel)
      distinct := by simp
      known := List.forall_mem_singleton.mpr (by decide +kernel) }
  exact ⟨job, read, stages, described job read⟩

/-- A number is no blank name. -/
theorem trim_spell_int_ne_empty (n : Nat) : Text.trim (Value.int n).spell ≠ "" := by
  obtain ⟨c, member⟩ := List.exists_mem_of_ne_nil _ (Nat.toDigits_ne_nil (b := 10) (n := n))
  have digit := Nat.isDigit_of_mem_toDigits (by decide) (by decide) member
  refine Text.trim_ne_empty (c := c) ?_ ?_
  · change c ∈ (toString n).toList
    rwa [Nat.toString_eq_repr, Nat.toList_repr]
  · have ascii : 48 ≤ c.toNat ∧ c.toNat ≤ 57 := by
      simpa [Char.isDigit, UInt32.le_iff_toNat_le] using digit
    simp only [Text.isBlank, Bool.or_eq_false_iff, Bool.and_eq_false_iff, decide_eq_false_iff_not,
      beq_eq_false_iff_ne]
    omega

/-- A number with one digit more than are written out. -/
def longNumber : Value := .int (Nat.pow 10 Excess.mostDigits)

/-- A document with no more than such a number for a name. -/
def oversized : Mapping := [(.text "job", longNumber)]

/-- A name need not be blank for a job not to be read. -/
theorem oversized_name_not_read :
    ResolvesTo oversized [] [] oversized ∧
      (∃ v, Value.given? (oversized.get? "job") = some v ∧ Text.trim v.spell ≠ "") ∧
      stageValues (oversized.get? "stages") = .ok [] ∧
      (Value.entries? (oversized.get? "globals")).isSome ∧
      (Job.read oversized [] [] none).1 = .error (.excess .digits) := by
  have given : Value.given? (oversized.get? "job") = some longNumber := by
    have filled : longNumber.isVoid = false := by decide +kernel
    exact Option.filter_eq_some_iff.mpr ⟨rfl, by rw [filled]; rfl⟩
  have unwritable : longNumber.excess? = some .digits := by decide +kernel
  refine ⟨⟨[], rfl, rfl⟩, ⟨_, given, trim_spell_int_ne_empty _⟩, rfl, rfl, ?_⟩
  have declared : Value.entries? (oversized.get? "variables") = some [] := rfl
  have rest : oversized.erase (.text "variables") = oversized := rfl
  have reach : Variable.Reach.ofEntries (Variable.scopeOf [] [] []) (Excess.mostLevels - 1)
      oversized = {} := rfl
  have excess : excess? oversized [] [] = some (.digits, []) := by
    simp [excess?, declared, rest, reach, given, unwritable]
  rw [Job.read, excess]

end Stagewright.Job
