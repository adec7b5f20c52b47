import Mathlib.Data.List.Infix
import Mathlib.Data.List.Nodup
import Stagewright.Proofs.Code.Collision
import Stagewright.Proofs.Generation.Milestones
import Stagewright.Proofs.Validation.Agreement

/-!
The keys under which the stages of a job meet. Those of connections and addresses begin alike and
end in a cid, those of numbers of records begin with a cid and end alike. Keys of the first sort are
all different, and none of the second sort is one of them unless a beginning and an end overlap.
-/

namespace Stagewright.Code

/-- The key of the stage `owner` in a role is spelled like that of the number of records which
belongs to `connection`, since the beginning of one and the end of the other run together. -/
def Role.Overlaps (role : Role) (owner connection : String) : Prop :=
  connection = role.stem ∧ owner = "NB_LINE" ∨
    ∃ middle, connection = role.stem ++ "_" ++ middle ∧ owner = middle ++ "_NB_LINE"

theorem Role.key_inj {role other : Role} {cid own : String} :
    role.key cid = other.key own ↔ role = other ∧ cid = own := by
  constructor
  · intro same
    have chars := congrArg String.toList same
    by_cases alike : role = other
    · subst alike
      exact ⟨rfl, String.toList_inj.mp (by simpa [key] using chars)⟩
    · cases role <;> cases other <;> simp [key, stem] at chars alike
  · rintro ⟨rfl, rfl⟩
    rfl

theorem Role.isSuffixOf_seam :
    ∀ role ∈ [Role.conn, .url, .user, .pass], ∀ seam ∈ "_NB_LINE".toList.inits,
      seam.isSuffixOf (role.stem.toList ++ ['_']) = true → seam = [] ∨ seam = ['_'] := by
  decide +kernel

/-- The beginning of a key and the end of one have no more than an underscore in common. -/
theorem Role.seam {role : Role} {seam : List Char} (ends : seam <:+ role.stem.toList ++ ['_'])
    (begins : seam <+: "_NB_LINE".toList) : seam = [] ∨ seam = ['_'] :=
  have roles : role ∈ [Role.conn, .url, .user, .pass] := by cases role <;> decide
  Role.isSuffixOf_seam role roles seam ((List.mem_inits _ _).mpr begins)
    (List.isSuffixOf_iff_suffix.mpr ends)

theorem Role.key_eq_countKey_iff {role : Role} {owner connection : String} :
    role.key owner = countKey connection ↔ role.Overlaps owner connection := by
  constructor
  · intro same
    have chars : (role.stem.toList ++ ['_']) ++ owner.toList =
        connection.toList ++ "_NB_LINE".toList := by
      simpa [key, countKey] using congrArg String.toList same
    rcases List.append_eq_append_iff.mp chars with ⟨middle, front, back⟩ | ⟨seam, front, back⟩
    · refine .inr ⟨String.ofList middle, ?_, ?_⟩
      · exact String.toList_inj.mp (by simp [front])
      · exact String.toList_inj.mp (by simp [back])
    · -- the connection ends before the cid begins, and what is left between them is of both
      rcases Role.seam ⟨_, front.symm⟩ ⟨_, back.symm⟩ with rfl | rfl
      · refine .inr ⟨"", ?_, ?_⟩
        · exact String.toList_inj.mp (by simpa using front.symm)
        · exact String.toList_inj.mp (by simpa using back.symm)
      · refine .inl ⟨?_, ?_⟩
        · exact String.toList_inj.mp (List.append_cancel_right front).symm
        · exact String.toList_inj.mp (List.cons.inj back).2.symm
  · rintro (⟨rfl, rfl⟩ | ⟨middle, rfl, rfl⟩)
    · exact String.toList_inj.mp (by simp [key, countKey])
    · exact String.toList_inj.mp (by simp [key, countKey])

/-- The key under which a statement publishes. -/
def Statement.publishedKey? : Statement → Option String
  | .publish key _ => some key
  | _ => none

/-- The key under which an expression looks for a number of records. -/
def Expr.countedKey? : Expr → Option String
  | .recordCount key => some key
  | _ => none

/-- The keys under which a statement looks for numbers of records. -/
def Statement.countedKeys (s : Statement) : List String := s.exprs.filterMap Expr.countedKey?

def publishedKeys (code : Code) : List String := code.filterMap (·.statement.publishedKey?)

def countedKeys (code : Code) : List String := code.flatMap (·.statement.countedKeys)

theorem publishedKeys_eq (code : Code) :
    publishedKeys code =
      ((code.map Line.statement).filter Statement.isPublication).filterMap
        Statement.publishedKey? := by
  rw [List.filterMap_filter, List.filterMap_map, publishedKeys]
  refine congrArg (List.filterMap · code) (funext fun line => ?_)
  simp only [Function.comp_apply]
  cases line.statement <;> rfl

theorem countedKeys_append (a b : Code) : countedKeys (a ++ b) = countedKeys a ++ countedKeys b :=
  List.flatMap_append

theorem countedKeys_block (header : Statement) (body : Code) :
    countedKeys (Code.block header body) = header.countedKeys ++ countedKeys body := by
  simp only [countedKeys, Code.block, List.flatMap_cons, Code.deeper, List.flatMap_map]
  rfl

/-- A statement of a stage that does not find out a number of records looks for none. -/
theorem Statement.From.countedKeys_eq_nil {view : View} {names : Names} {s : Statement}
    (from_ : s.From view names) (uncounted : s.counts = false) : s.countedKeys = [] := by
  refine List.filterMap_eq_nil_iff.mpr fun e member => ?_
  cases e with
  | recordCount key =>
    obtain ⟨x, rfl, -⟩ := from_.lookup member rfl
    exact Bool.noConfusion uncounted
  | _ => rfl

theorem countedKeys_eq_nil {view : View} {names : Names} {code : Code}
    (from_ : Each (Statement.From view names) code)
    (uncounted : Each (fun s => s.counts = false) code) : countedKeys code = [] :=
  List.flatMap_eq_nil_iff.mpr fun line member =>
    (from_ line member).countedKeys_eq_nil (uncounted line member)

namespace Program

/-- The keys under which a program publishes, in the order in which it does so. -/
def publishedKeys (program : Program) : List String :=
  program.flatMap fun fragment => Code.publishedKeys fragment.code

/-- The keys under which a program looks for numbers of records. -/
def countedKeys (program : Program) : List String :=
  program.flatMap fun fragment => Code.countedKeys fragment.code

end Program

end Stagewright.Code

namespace Stagewright

theorem StageKind.name_inj {a b : StageKind} : a.name = b.name ↔ a = b := by
  cases a <;> cases b <;> decide

end Stagewright

namespace Stagewright.Generation

open Code Lifecycle Connection

section Stages

variable (view : View)

theorem uncounted_effect {names : Names} (e : Effect) :
    Each (fun s => s.counts = false) (Operation.code view names (.effect e)) :=
  .append (.append (uncounted_message _ _ _) (.cons rfl .nil)) (uncounted_message _ _ _)

/-- The keys under which a stage that gets a connection publishes. -/
def connectionKeys (cid : String) : List String := [Role.conn.key cid, Role.url.key cid]

theorem publishedKeys_stageCode (kind : StageKind) :
    publishedKeys (stageCode kind view) =
      if kind = .connection then connectionKeys view.cid else [] := by
  split
  · rename_i connection
    subst connection
    have story := publications_of_story (milestones_route (StrategyKind.select view) view)
    rw [publishedKeys_eq, show stageCode .connection view = _ from rfl]
    exact congrArg (List.filterMap Statement.publishedKey?) story
  · rename_i ending
    refine List.filterMap_eq_nil_iff.mpr fun line member => ?_
    have allowed := stageCode_allowed kind view line member
    rw [publishedBy, if_neg ending] at allowed
    cases statement : line.statement with
    | publish key x =>
      rw [statement] at allowed
      exact absurd allowed List.not_mem_nil
    | _ => rfl

/-- What ends the work on a connection looks for a number of records only if it commits some. -/
theorem countedKeys_effectCode (e : Effect) :
    countedKeys (effectCode view ⟨view.cid⟩ e) =
      if e = .commit ∧ dataAction view ≠ "" then [countKey (view.trimmed "connection")]
      else [] := by
  have quiet (e : Effect) :
      countedKeys (Operation.code view ⟨view.cid⟩ (.effect e)) = [] :=
    countedKeys_eq_nil (effect_from e) (uncounted_effect view e)
  have closing : countedKeys (if e ≠ .close ∧ view.flag "close" then
      Operation.code view ⟨view.cid⟩ (.effect .close) else []) = [] := by
    split
    · exact quiet .close
    · rfl
  have reuse : countedKeys (Operation.code view ⟨view.cid⟩ .reuse) = [] :=
    countedKeys_eq_nil reuse_from uncounted_reuse
  simp only [effectCode_eq, countedKeys_append, countedKeys_block, quiet, closing, reuse]
  split
  · rfl
  · rfl

theorem countedKeys_stageCode (kind : StageKind) :
    countedKeys (stageCode kind view) =
      if kind = .commit ∧ dataAction view ≠ "" then [countKey (view.trimmed "connection")]
      else [] := by
  cases kind with
  | connection =>
    exact countedKeys_eq_nil (stageCode_from .connection view)
      (.flatMap fun state _ => (request view).uncounted_code state)
  | commit => exact (countedKeys_effectCode view .commit).trans (by simp)
  | rollback => exact (countedKeys_effectCode view .rollback).trans (by simp)
  | close => exact (countedKeys_effectCode view .close).trans (by simp)

end Stages

/-- A stage that commits records, and so finds out how many there are. -/
def CommitsRecords (settings : Settings) (stage : Stage) : Prop :=
  stage.kind = StageKind.commit.name ∧ dataAction ⟨stage, settings⟩ ≠ ""

instance (settings : Settings) (stage : Stage) : Decidable (CommitsRecords settings stage) :=
  inferInstanceAs (Decidable (_ ∧ _))

section Program

variable {settings : Settings} {stages : List Stage} {program : Program}

/-- What is gathered from the fragments can be gathered from the stages. -/
theorem Generates.flatMap_eq {α : Type} {ofFragment : Fragment → List α}
    {ofStage : Stage → List α} (generates : Generates settings stages program)
    (each : ∀ stage kind, stage.kind = StageKind.name kind →
      ofFragment (fragment kind ⟨stage, settings⟩) = ofStage stage) :
    program.flatMap ofFragment = stages.flatMap ofStage := by
  induction generates with
  | nil => rfl
  | @cons stage _ _ _ first _ ih =>
    obtain ⟨kind, named, rfl⟩ := first
    rw [List.flatMap_cons, List.flatMap_cons, ih,
      each stage kind (StageKind.ofName?_eq_some_iff.mp named)]

theorem flatMap_filter {α β : Type} (p : α → Prop) [DecidablePred p] (f : α → List β)
    (l : List α) : (l.filter p).flatMap f = l.flatMap fun a => if p a then f a else [] := by
  induction l with
  | nil => rfl
  | cons a rest ih =>
    by_cases chosen : p a <;> simp [chosen, ih]

/-- A program publishes for each stage that gets a connection, and for no other. -/
theorem Generates.publishedKeys (generates : Generates settings stages program) :
    program.publishedKeys = (Validation.registered stages).flatMap connectionKeys := by
  rw [Validation.registered, List.flatMap_map, flatMap_filter]
  refine generates.flatMap_eq fun stage kind named => ?_
  rw [fragment, publishedKeys_stageCode, named]
  simp only [StageKind.name_inj]
  rfl

/-- A program looks for one number of records for each stage that commits some. -/
theorem Generates.countedKeys (generates : Generates settings stages program) :
    program.countedKeys = (stages.filter (CommitsRecords settings ·)).map fun stage =>
      countKey (View.trimmed ⟨stage, settings⟩ "connection") := by
  rw [List.map_eq_flatMap, flatMap_filter]
  refine generates.flatMap_eq fun stage kind named => ?_
  have commits : CommitsRecords settings stage ↔
      kind = .commit ∧ dataAction ⟨stage, settings⟩ ≠ "" := by
    rw [CommitsRecords, named, StageKind.name_inj]
  rw [fragment, countedKeys_stageCode]
  simp only [commits]

end Program

theorem mem_connectionKeys {key cid : String} :
    key ∈ connectionKeys cid ↔ ∃ role ∈ [Role.conn, .url], role.key cid = key := by
  simp [connectionKeys, eq_comm]

theorem nodup_connectionKeys {cids : List String} (distinct : cids.Nodup) :
    (cids.flatMap connectionKeys).Nodup := by
  refine List.nodup_flatMap.mpr ⟨fun cid _ => ?_, distinct.imp ?_⟩
  · simp [connectionKeys, Role.key_inj]
  · intro a b different
    simp [Function.onFun, List.disjoint_left, connectionKeys, Role.key_inj, different]

theorem countKey_mem_connectionKeys {cids : List String} {connection : String} :
    countKey connection ∈ cids.flatMap connectionKeys ↔
      ∃ owner ∈ cids, ∃ role ∈ [Role.conn, .url], role.Overlaps owner connection := by
  simp only [List.mem_flatMap, mem_connectionKeys, Role.key_eq_countKey_iff]

open Validation

/-- The keys under which the program of a job publishes are all different, two for each stage that
gets a connection. A commit of records looks for their number under a key that is none of them,
unless the connection that it names and the cid of such a stage overlap. -/
theorem keys_apart_unless_overlapping {document overrides environment : Mapping}
    {source : Option String} {job : Job}
    (read : (Job.read document overrides environment source).1 = .ok job) :
    ((∃ program, (generateProgram .standard job).1 = .ok program) ↔ WritesOut job) ∧
    ∀ program : Program, (generateProgram .standard job).1 = .ok program →
      program.publishedKeys = (registered job.stages).flatMap connectionKeys ∧
      program.publishedKeys.Nodup ∧
      program.countedKeys = (job.stages.filter (CommitsRecords job.settings ·)).map
        (fun stage => countKey (reference job stage)) ∧
      ∀ connection, countKey connection ∈ program.publishedKeys ↔
        ∃ owner ∈ registered job.stages, ∃ role ∈ [Role.conn, .url],
          role.Overlaps owner connection := by
  have accepted := Job.read_accepted read
  refine ⟨exists_generated_iff accepted, fun program made => ?_⟩
  have generates := (generates_of_ok accepted made).2
  have published := generates.publishedKeys
  have distinct : (registered job.stages).Nodup :=
    accepted.distinct.sublist (List.filter_sublist.map _)
  refine ⟨published, ?_, generates.countedKeys, fun connection => ?_⟩
  · rw [published]
    exact nodup_connectionKeys distinct
  · rw [published]
    exact countKey_mem_connectionKeys

/-- A document with two stages that get connections, and a third one that commits records on the
first of these. -/
def documentOfCount (first second : String) : Mapping :=
  [(.text "job", .text "j"),
    (.text "stages", .list [.map [(.text "cid", .text first)], .map [(.text "cid", .text second)],
      .map [(.text "cid", .text "k"), (.text "kind", .text "commit"),
        (.text "params", .map
          [(.text "connection", .text first), (.text "data_action", .text "INSERT")])]])]

def countStage (connection : String) : Stage where
  cid := "k"
  kind := "commit"
  params := StageKind.commit.defaults.update
    [(.text "connection", .text connection), (.text "data_action", .text "INSERT")]

/-- The job in the document. -/
def jobOfCount (first second : String) : Job where
  name := "j"
  stages := [Job.stageOf first, Job.stageOf second, countStage first]

/-- The number of records of `c` is looked for under a key that nothing is published under. -/
theorem count_of_c_apart :
    (Job.read (documentOfCount "c" "d") [] [] none).1 = .ok (jobOfCount "c" "d") ∧
      ∃ program : Program, (generateProgram .standard (jobOfCount "c" "d")).1 = .ok program ∧
        program.publishedKeys = ["conn_c", "url_c", "conn_d", "url_d"] ∧
        program.countedKeys = ["c_NB_LINE"] ∧ "c_NB_LINE" ∉ program.publishedKeys := by
  have read : (Job.read (documentOfCount "c" "d") [] [] none).1 = .ok (jobOfCount "c" "d") := rfl
  obtain ⟨generated, keysOf⟩ := keys_apart_unless_overlapping read
  obtain ⟨program, run⟩ := generated.mpr (writesOut_of_none_refused (by decide +kernel))
  obtain ⟨published, -, counted, -⟩ := keysOf program run
  have keys : program.publishedKeys = ["conn_c", "url_c", "conn_d", "url_d"] := published
  exact ⟨read, program, run, keys, counted.trans (by decide +kernel), by rw [keys]; decide⟩

/-- The number of records of `conn` is looked for under the key of the connection of `NB_LINE`. -/
theorem count_of_conn_published :
    (Job.read (documentOfCount "conn" "NB_LINE") [] [] none).1 =
        .ok (jobOfCount "conn" "NB_LINE") ∧
      ∃ stage ∈ (jobOfCount "conn" "NB_LINE").stages,
        CommitsRecords (jobOfCount "conn" "NB_LINE").settings stage ∧
        reference (jobOfCount "conn" "NB_LINE") stage ∈ (jobOfCount "conn" "NB_LINE").cids ∧
        ∃ program : Program,
          (generateProgram .standard (jobOfCount "conn" "NB_LINE")).1 = .ok program ∧
            countKey (reference (jobOfCount "conn" "NB_LINE") stage) ∈ program.countedKeys ∧
            countKey (reference (jobOfCount "conn" "NB_LINE") stage) ∈ program.publishedKeys := by
  have read : (Job.read (documentOfCount "conn" "NB_LINE") [] [] none).1 =
      .ok (jobOfCount "conn" "NB_LINE") := rfl
  have accepted := Job.read_accepted read
  obtain ⟨program, run⟩ := (exists_generated_iff accepted).mpr
    (writesOut_of_none_refused (by decide +kernel))
  have generates := (generates_of_ok accepted run).2
  refine ⟨read, countStage "conn", by simp [jobOfCount], by decide +kernel, by decide +kernel,
    program, run, ?_, ?_⟩
  · rw [generates.countedKeys]
    decide +kernel
  · rw [generates.publishedKeys]
    decide +kernel

end Stagewright.Generation
