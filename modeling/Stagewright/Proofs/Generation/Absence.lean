import Mathlib.Data.List.Basic
import Stagewright.Proofs.Generation.Agreement
import Stagewright.Proofs.Generation.Vocabulary
import Stagewright.Proofs.Value.Dict

/-!
What becomes of a stage with a blank parameter. Whatever stands in for a parameter that is missing
stands in for a blank one too, unless the blank one is the name of a shared connection.
-/

namespace Stagewright

open Connection

/-- The stage without a parameter. -/
def Stage.withoutParam (stage : Stage) (key : String) : Stage :=
  { stage with params := stage.params.erase (.text key) }

/-- Something stands in for the parameter where a stage leaves it out. -/
def View.HasFallback (view : View) (key : String) : Prop :=
  key ∈ ["user", "password", "shared_connection_name", "datasource_alias", "connection",
    "data_action"] ∨ key = "url" ∧ StrategyKind.select view = .generic

section Removal

variable {stage : Stage} {settings : Settings} {key other blank : String}

theorem Stage.get_withoutParam :
    View.get ⟨stage.withoutParam key, settings⟩ key = "" := by
  have none : (stage.withoutParam key).params.get? key = none :=
    Mapping.get?_erase_self stage.params key
  simp [View.get, none]

theorem Stage.get_withoutParam_of_ne (different : other ≠ key) :
    View.get ⟨stage.withoutParam key, settings⟩ other = View.get ⟨stage, settings⟩ other := by
  have kept : (stage.withoutParam key).params.get? other = stage.params.get? other :=
    Mapping.get?_erase stage.params different
  simp only [View.get, kept]

section Held

variable (held : stage.params.get? key = some (.text blank))

include held

theorem Stage.get_text : View.get ⟨stage, settings⟩ key = blank := by
  simp [View.get, held, Value.spell, Scalar.spell]

variable (white : Text.isBlankText blank = true)

include white

/-- A stage hardly reads any different without a blank parameter. -/
theorem Stage.resembles_withoutParam :
    View.Resembles Set.univ ⟨stage, settings⟩ ⟨stage.withoutParam key, settings⟩ where
  cid := rfl
  component := rfl
  logEnabled := rfl
  flag other _ := by
    by_cases same : other = key
    · subst same
      have none : (stage.withoutParam other).params.get? other = none :=
        Mapping.get?_erase_self stage.params other
      have trimmed : View.trimmed ⟨stage, settings⟩ other = "" := by
        rw [View.trimmed, Stage.get_text held]
        exact Text.trim_of_blank white
      have trimmed' : View.trimmed ⟨stage.withoutParam other, settings⟩ other = "" := by
        rw [View.trimmed, Stage.get_withoutParam]
        rfl
      simp only [View.flag, held, none, trimmed, trimmed']
    · have kept : (stage.withoutParam key).params.get? other = stage.params.get? other :=
        Mapping.get?_erase stage.params same
      simp only [View.flag, kept, View.trimmed, Stage.get_withoutParam_of_ne same]
      rfl
  get other _ := by
    by_cases same : other = key
    · subst same
      refine .inr ⟨?_, ?_⟩
      · rw [View.isBlank, Stage.get_text held, white]
      · rw [View.isBlank, Stage.get_withoutParam]
        rfl
    · exact .inl (Stage.get_withoutParam_of_ne same).symm

end Held

end Removal

namespace Generation

open Code Lifecycle

/-- A blank name that a shared connection is given instead of none. -/
def KeepsBlank (kind : StageKind) (view : View) (key : String) : Prop :=
  kind = .connection ∧ key = "shared_connection_name" ∧ Mode.select view = .shared ∧
    view.get key ≠ ""

section Alike

variable {v w : View} (alike : v.Resembles Set.univ w)
  (encrypted : v.stage.encrypted = w.stage.encrypted)

include alike encrypted

theorem code_resembles {state : State}
    (copied : ∀ key ∈ state.copies (StrategyKind.select w) (Mode.select w), v.get key = w.get key) :
    (request v).code state = (request w).code state := by
  have mode : Mode.select v = Mode.select w := Mode.select_resembles (alike.mono (by simp))
  have strategy : StrategyKind.select v = StrategyKind.select w :=
    StrategyKind.select_resembles (alike.mono (by simp))
  rw [request, request, Strategy.select, Strategy.select, strategy, alike.cid]
  exact Request.code_resembles mode (alike.mono (by simp)) copied fun _ =>
    Credentials.statements_resembles (alike.mono (by simp)) encrypted

theorem fragment_resembles (kind : StageKind)
    (copied : kind = .connection → ∀ state : State,
      ∀ key ∈ state.copies (StrategyKind.select w) (Mode.select w), v.get key = w.get key) :
    fragment kind v = fragment kind w := by
  have effect (e : Effect) : effectCode v ⟨w.cid⟩ e = effectCode w ⟨w.cid⟩ e :=
    effectCode_resembles (alike.mono (by simp)) _ e
  have code : stageCode kind v = stageCode kind w := by
    cases kind with
    | connection =>
      have route : (request v).mode.route = (request w).mode.route :=
        congrArg _ (Mode.select_resembles (alike.mono (by simp)))
      rw [stageCode, stageCode, route]
      exact List.flatMap_congr fun state _ => code_resembles alike encrypted (copied rfl state)
    | commit => rw [stageCode, stageCode, alike.cid, effect]
    | rollback => rw [stageCode, stageCode, alike.cid, effect]
    | close => rw [stageCode, stageCode, alike.cid, effect]
  rw [fragment, fragment, alike.cid, alike.component, code]

end Alike

section Sharing

/-- What a stage that shares a connection writes before the name of it. -/
def beforeName (view : View) : Code :=
  [State.init, .urlBuilt].flatMap (request view).code ++
    Operation.code view ⟨view.cid⟩ .shareLog

/-- What it writes after the name. -/
def afterName (view : View) : Code :=
  let names : Names := ⟨view.cid⟩
  ofStatements [.bind names.conn (.pooled (Strategy.select view names).driverClass names.url
      names.dbUser names.dbPwd names.sharedConnectionName)] ++
    (if view.flag "use_existing_connection" then Operation.code view names .reuse else []) ++
    [State.autoCommitSet, .registered, .done].flatMap (request view).code

theorem stageCode_shared {view : View} (shared : Mode.select view = .shared) :
    stageCode .connection view = beforeName view ++
      ⟨0, .bind (Names.sharedConnectionName ⟨view.cid⟩)
        (.operand (Strategy.select view ⟨view.cid⟩).sharedName)⟩ :: afterName view := by
  have mode : (request view).mode = .shared := shared
  have connected : (request view).code .connected =
      (Operation.code view ⟨view.cid⟩ .shareLog ++
        ofStatements (Strategy.select view ⟨view.cid⟩).acquireShared) ++
      if view.flag "use_existing_connection" then Operation.code view ⟨view.cid⟩ .reuse
      else [] := by
    rw [Request.code_eq]
    dsimp only
    rw [if_pos mode]
    rfl
  simp only [stageCode, mode, Mode.route, List.flatMap_cons, connected, beforeName, afterName,
    Strategy.acquireShared, ofStatements, List.map_cons, List.append_assoc, List.cons_append]
  rfl

variable {v w : View} (alike : v.Resembles Set.univ w)
  (encrypted : v.stage.encrypted = w.stage.encrypted)
  (others : ∀ key ≠ "shared_connection_name", v.get key = w.get key)

include alike encrypted others

theorem beforeName_resembles : beforeName v = beforeName w := by
  have building : ∀ state ∈ [State.init, .urlBuilt],
      (request v).code state = (request w).code state := by
    intro state member
    refine code_resembles alike encrypted fun key copied => others key ?_
    rintro rfl
    rcases List.mem_pair.mp member with rfl | rfl
    · simp [State.copies] at copied
    · cases StrategyKind.select w <;> simp [State.copies] at copied
  have log : Operation.code v ⟨v.cid⟩ .shareLog = Operation.code w ⟨w.cid⟩ .shareLog := by
    simp only [Operation.code, alike.logEnabled, alike.cid]
  rw [beforeName, beforeName, List.flatMap_congr building, log]

theorem afterName_resembles : afterName v = afterName w := by
  have strategy : StrategyKind.select v = StrategyKind.select w :=
    StrategyKind.select_resembles (alike.mono (by simp))
  have driver :
      (Strategy.select v ⟨w.cid⟩).driverClass = (Strategy.select w ⟨w.cid⟩).driverClass := by
    rw [Strategy.select, Strategy.select, strategy]
    exact Strategy.driverClass_congr (others "driver_class" (by simp))
  have existing : v.flag "use_existing_connection" = w.flag "use_existing_connection" :=
    alike.flag _ trivial
  have reuse : Operation.code v ⟨w.cid⟩ .reuse = Operation.code w ⟨w.cid⟩ .reuse :=
    reuse_resembles (alike.mono (by simp))
  have ending : ∀ state ∈ [State.autoCommitSet, .registered, .done],
      (request v).code state = (request w).code state := by
    intro state member
    refine code_resembles alike encrypted fun key copied => ?_
    -- nothing is copied any more
    simp only [List.mem_cons, List.not_mem_nil, or_false] at member
    rcases member with rfl | rfl | rfl <;> exact absurd copied (by simp [State.copies])
  simp only [afterName, alike.cid, driver, existing, reuse, List.flatMap_congr ending]

/-- The name under which a connection is shared shows in the code of its stage. -/
theorem sharedName_of_texts (shared : Mode.select w = .shared)
    (same : (stageCode .connection v).texts = (stageCode .connection w).texts) :
    (Strategy.select v ⟨v.cid⟩).sharedName.text = (Strategy.select w ⟨w.cid⟩).sharedName.text := by
  have mode : Mode.select v = Mode.select w := Mode.select_resembles (alike.mono (by simp))
  rw [stageCode_shared (mode.trans shared), stageCode_shared shared,
    beforeName_resembles alike encrypted others, afterName_resembles alike encrypted others,
    Code.texts, Code.texts, List.map_append, List.map_append, List.append_cancel_left_eq] at same
  have line := List.head_eq_of_cons_eq same
  rw [Line.text, Line.text, indented_zero, indented_zero, alike.cid] at line
  rw [alike.cid]
  exact (String.append_right_inj ((Names.sharedConnectionName ⟨w.cid⟩).text ++ " = ")).mp line

end Sharing

/-- Of all that something stands in for, only the name of a shared connection is copied. -/
theorem sharing_of_copied {view : View} {key : String} (fallback : view.HasFallback key)
    {state : State} (copied : key ∈ state.copies (StrategyKind.select view) (Mode.select view)) :
    key = "shared_connection_name" ∧ Mode.select view = .shared := by
  have driver : key ≠ "driver_class" := by
    rintro rfl
    simp [View.HasFallback] at fallback
  cases state with
  | driverLoaded => exact absurd copied driver
  | urlBuilt =>
    rw [State.copies] at copied
    split at copied
    · rename_i specified
      obtain rfl : key = "url" := copied
      simp [View.HasFallback, specified] at fallback
    · exact absurd copied (Set.notMem_empty _)
  | connected =>
    rw [State.copies] at copied
    split at copied
    · rename_i shared
      exact ⟨copied.resolve_left driver, shared⟩
    · exact absurd copied (Set.notMem_empty _)
  | init => exact absurd copied (Set.notMem_empty _)
  | autoCommitSet => exact absurd copied (Set.notMem_empty _)
  | registered => exact absurd copied (Set.notMem_empty _)
  | done => exact absurd copied (Set.notMem_empty _)

section Blank

variable {stage : Stage} {settings : Settings} {key blank : String}
  (held : stage.params.get? key = some (.text blank)) (white : Text.isBlankText blank = true)

include held

theorem excess?_withoutParam (keys : List String) :
    View.excess? ⟨stage, settings⟩ keys = View.excess? ⟨stage.withoutParam key, settings⟩ keys := by
  refine Value.findSome?_congr fun other _ => ?_
  by_cases same : other = key
  · subst same
    have none : (stage.withoutParam other).params.get? other = none :=
      Mapping.get?_erase_self stage.params other
    rw [held, none]
    rfl
  · have kept : (stage.withoutParam key).params.get? other = stage.params.get? other :=
      Mapping.get?_erase stage.params same
    rw [kept]

include white

theorem get_of_copied (fallback : View.HasFallback ⟨stage, settings⟩ key)
    (notKept : ¬KeepsBlank .connection ⟨stage, settings⟩ key) (state : State) :
    let w : View := ⟨stage.withoutParam key, settings⟩
    ∀ other ∈ state.copies (StrategyKind.select w) (Mode.select w),
      View.get ⟨stage, settings⟩ other = w.get other := by
  intro w other copied
  have alike := @Stage.resembles_withoutParam stage settings key blank held white
  have mode : Mode.select ⟨stage, settings⟩ = Mode.select w :=
    Mode.select_resembles (alike.mono (by simp))
  have strategy : StrategyKind.select ⟨stage, settings⟩ = StrategyKind.select w :=
    StrategyKind.select_resembles (alike.mono (by simp))
  by_cases same : other = key
  · subst same
    rw [← mode, ← strategy] at copied
    obtain ⟨rfl, shared⟩ := sharing_of_copied fallback copied
    have empty : View.get ⟨stage, settings⟩ "shared_connection_name" = "" := by
      by_contra shows
      exact notKept ⟨rfl, rfl, shared, shows⟩
    rw [empty, Stage.get_withoutParam]
  · exact (Stage.get_withoutParam_of_ne same).symm

/-- A stage with a blank name for its shared connection is told from one without a name. -/
theorem texts_ne_of_kept {kind : StageKind} (kept : KeepsBlank kind ⟨stage, settings⟩ key) :
    (stageCode kind ⟨stage, settings⟩).texts ≠
      (stageCode kind ⟨stage.withoutParam key, settings⟩).texts := by
  obtain ⟨rfl, rfl, shared, shows⟩ := kept
  intro same
  have alike := @Stage.resembles_withoutParam stage settings _ blank held white
  have mode := Mode.select_resembles (alike.mono (Set.subset_univ _))
  have name := sharedName_of_texts alike rfl
    (fun other different => (Stage.get_withoutParam_of_ne different).symm) (mode ▸ shared) same
  have given : (Strategy.select ⟨stage, settings⟩ ⟨stage.cid⟩).sharedName = .given blank := by
    rw [Stage.get_text held] at shows
    simp only [Strategy.select, Strategy.sharedName, Stage.get_text held, String.isEmpty_iff, shows]
    rfl
  have absent : (Strategy.select ⟨stage.withoutParam "shared_connection_name", settings⟩
      ⟨stage.cid⟩).sharedName = .emptyText := by
    simp only [Strategy.select, Strategy.sharedName, Stage.get_withoutParam]
    rfl
  have quotes : blank = "\"\"" := (congrArg Operand.text given).symm.trans
    (name.trans (congrArg Operand.text absent))
  rw [quotes] at white
  exact absurd white (by decide)

end Blank

/-- A blank parameter that something can stand in for makes the same plan as a missing one, unless
it is the name of a shared connection, which is written down. -/
theorem blank_as_absent_unless_kept (kind : StageKind) (stage : Stage) (settings : Settings)
    {key blank : String} (fallback : View.HasFallback ⟨stage, settings⟩ key)
    (held : stage.params.get? key = some (.text blank)) (white : Text.isBlankText blank = true) :
    let v : View := ⟨stage, settings⟩
    let w : View := ⟨stage.withoutParam key, settings⟩
    excess? kind w = excess? kind v ∧
      match excess? kind v with
      | some e =>
        (generateView kind v).1 = .error (.excess e) ∧ (generateView kind w).1 = .error (.excess e)
      | none =>
        ∃ f g, (generateView kind v).1 = .ok f ∧ (generateView kind w).1 = .ok g ∧
          (¬KeepsBlank kind v key → f = g) ∧
          (KeepsBlank kind v key → f.code.texts ≠ g.code.texts) := by
  intro v w
  have alike : View.Resembles Set.univ v w := Stage.resembles_withoutParam held white
  have demands : excess? kind w = excess? kind v := by
    rw [excess?, excess?, generationKeys_resembles (alike.mono (Set.subset_univ _)) kind]
    exact (excess?_withoutParam held _).symm
  refine ⟨demands, ?_⟩
  rw [generateView_eq, generateView_eq, demands]
  cases excess? kind v with
  | some e => exact ⟨rfl, rfl⟩
  | none =>
    refine ⟨_, _, rfl, rfl, ?_, texts_ne_of_kept held white⟩
    intro notKept
    refine fragment_resembles alike rfl kind fun connection => ?_
    subst connection
    exact get_of_copied held white fallback notKept

/-- A stage that leaves its user blank. -/
def userlessStage : Stage where
  cid := "c"
  params := [(.text "user", .text " \t")]

theorem blank_user_as_absent :
    View.HasFallback ⟨userlessStage, {}⟩ "user" ∧
      userlessStage.params.get? "user" = some (.text " \t") ∧
      Text.isBlankText " \t" = true ∧
      (generateView .connection ⟨userlessStage, {}⟩).1 =
        (generateView .connection ⟨userlessStage.withoutParam "user", {}⟩).1 := by
  have fallback : View.HasFallback ⟨userlessStage, {}⟩ "user" := .inl (by simp)
  have held : userlessStage.params.get? "user" = some (.text " \t") := rfl
  have white : Text.isBlankText " \t" = true := by decide
  have notKept : ¬KeepsBlank .connection ⟨userlessStage, {}⟩ "user" := by simp [KeepsBlank]
  have fits : excess? .connection ⟨userlessStage, {}⟩ = none := by decide +kernel
  obtain ⟨-, told⟩ := blank_as_absent_unless_kept .connection userlessStage {} fallback held white
  rw [fits] at told
  obtain ⟨f, g, first, second, same, -⟩ := told
  exact ⟨fallback, held, white, by rw [first, second, same notKept]⟩

/-- A stage whose connection is shared under a name of white space. -/
def blankShareStage : Stage where
  cid := "c"
  params := [(.text "use_shared_connection", .bool true),
    (.text "shared_connection_name", .text " ")]

/-- The white space is written where a missing name is made up for. -/
theorem blank_share_not_as_absent :
    View.HasFallback ⟨blankShareStage, {}⟩ "shared_connection_name" ∧
      blankShareStage.params.get? "shared_connection_name" = some (.text " ") ∧
      Text.isBlankText " " = true ∧
      (generateView .connection ⟨blankShareStage, {}⟩).1.map (·.code.texts) ≠
        (generateView .connection
          ⟨blankShareStage.withoutParam "shared_connection_name", {}⟩).1.map (·.code.texts) := by
  refine ⟨.inl (by simp), rfl, by decide, ?_⟩
  have fits : excess? .connection ⟨blankShareStage, {}⟩ = none := by decide +kernel
  have fits' : excess? .connection ⟨blankShareStage.withoutParam "shared_connection_name", {}⟩ =
      none := by decide +kernel
  rw [generateView_eq, generateView_eq, fits, fits']
  intro same
  exact absurd (Except.ok.inj same) (by decide +kernel)

end Generation

end Stagewright
