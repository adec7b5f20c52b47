import Mathlib.Data.Set.Insert
import Stagewright.Proofs.Generation.Fragment
import Stagewright.Proofs.Text.Blank

/-!
Which parameters each part of the code of a stage depends on. Views that agree on those parameters
have that part in common, whatever else the stages hold. Most parts do not even tell one blank
parameter from another.
-/

namespace Stagewright

/-- Views of stages that are alike but for parameters under keys other than the given ones. -/
structure View.Agrees (keys : Set String) (v w : View) : Prop where
  cid : v.cid = w.cid
  component : v.component = w.component
  logEnabled : v.logEnabled = w.logEnabled
  param : ∀ key ∈ keys, v.stage.params.get? key = w.stage.params.get? key

/-- Views of stages that read alike under the given keys, where one blank text is as good as
another. -/
structure View.Resembles (keys : Set String) (v w : View) : Prop where
  cid : v.cid = w.cid
  component : v.component = w.component
  logEnabled : v.logEnabled = w.logEnabled
  flag : ∀ key ∈ keys, v.flag key = w.flag key
  get : ∀ key ∈ keys, v.get key = w.get key ∨ v.isBlank key = true ∧ w.isBlank key = true

namespace View.Resembles

variable {keys fewer : Set String} {v w : View}

theorem mono (alike : Resembles keys v w) (subset : fewer ⊆ keys) : Resembles fewer v w :=
  { alike with
    flag := fun key member => alike.flag key (subset member)
    get := fun key member => alike.get key (subset member) }

section Keys

variable (alike : Resembles keys v w) {key : String} (member : key ∈ keys)

include alike member

theorem isBlank : v.isBlank key = w.isBlank key := by
  rcases alike.get key member with same | ⟨blank, blank'⟩
  · rw [View.isBlank, View.isBlank, same]
  · rw [blank, blank']

theorem trimmed : v.trimmed key = w.trimmed key := by
  rcases alike.get key member with same | ⟨blank, blank'⟩
  · rw [View.trimmed, View.trimmed, same]
  · rw [View.trimmed, View.trimmed, Text.trim_of_blank blank, Text.trim_of_blank blank']

/-- What shows is the same. -/
theorem get_of_shows (shows : w.isBlank key = false) : v.get key = w.get key := by
  refine (alike.get key member).resolve_right fun blank => ?_
  rw [blank.2] at shows
  exact Bool.noConfusion shows

end Keys

end View.Resembles

namespace View.Agrees

variable {keys fewer : Set String} {v w : View}

theorem mono (agrees : Agrees keys v w) (subset : fewer ⊆ keys) : Agrees fewer v w :=
  { agrees with param := fun key member => agrees.param key (subset member) }

section Keys

variable (agrees : Agrees keys v w) {key : String} (member : key ∈ keys)

include agrees member

theorem get : v.get key = w.get key := by
  simp only [View.get, agrees.param key member]

theorem trimmed : v.trimmed key = w.trimmed key := by
  rw [View.trimmed, View.trimmed, agrees.get member]

theorem isBlank : v.isBlank key = w.isBlank key := by
  rw [View.isBlank, View.isBlank, agrees.get member]

theorem flag : v.flag key = w.flag key := by
  simp only [View.flag, agrees.param key member, agrees.trimmed member]

end Keys

theorem resembles (agrees : Agrees keys v w) : Resembles keys v w :=
  { agrees with
    flag := fun _ member => agrees.flag member
    get := fun _ member => .inl (agrees.get member) }

end View.Agrees

namespace Lifecycle

open Code

variable {v w : View} {names : Names}

theorem message_resembles {keys : Set String} (alike : v.Resembles keys w) :
    message v = message w := by
  funext level text args
  rw [message, message, alike.logEnabled, alike.cid]

theorem debug_resembles {keys : Set String} (alike : v.Resembles keys w) : debug v = debug w := by
  funext text args
  rw [debug, debug, message_resembles alike]

theorem connectionLabel_resembles
    (alike : v.Resembles {"use_existing_connection", "connection"} w) :
    connectionLabel v = connectionLabel w := by
  have reuse : v.trimmed "use_existing_connection" = w.trimmed "use_existing_connection" :=
    alike.trimmed (by simp)
  have connection : v.trimmed "connection" = w.trimmed "connection" :=
    alike.trimmed (by simp)
  rw [connectionLabel, connectionLabel, reuse, connection]

theorem reuse_resembles (alike : v.Resembles {"use_existing_connection", "connection"} w) :
    Operation.code v names .reuse = Operation.code w names .reuse := by
  simp only [Operation.code, reuseCode, alike.logEnabled, alike.component,
    debug_resembles alike, connectionLabel_resembles alike]

theorem connect_resembles (alike : v.Resembles {"user"} w) (statement : Statement) :
    Operation.code v names (.connect statement) = Operation.code w names (.connect statement) := by
  have arguments (withUser : Bool) :
      Note.arguments v names (.connecting withUser) =
        Note.arguments w names (.connecting withUser) := by
    cases withUser <;> rfl
  simp only [Operation.code, debug_resembles alike, alike.isBlank rfl, arguments]
  rfl

theorem dataAction_resembles (alike : v.Resembles {"data_action"} w) :
    dataAction v = dataAction w := by
  rw [dataAction, dataAction, alike.trimmed rfl]

theorem effectBracket_resembles
    (alike : v.Resembles {"use_existing_connection", "connection", "data_action"} w) (e : Effect) :
    effectBracket v names e = effectBracket w names e := by
  have label : connectionLabel v = connectionLabel w :=
    connectionLabel_resembles (alike.mono (by simp [Set.insert_subset_iff]))
  have action : dataAction v = dataAction w := dataAction_resembles (alike.mono (by simp))
  unfold effectBracket
  rw [label]
  cases e with
  | commit =>
    refine if_congr ?_ rfl rfl
    rw [action]
  | rollback => rfl
  | close => rfl

theorem effect_resembles
    (alike : v.Resembles {"use_existing_connection", "connection", "data_action"} w) (e : Effect) :
    Operation.code v names (.effect e) = Operation.code w names (.effect e) := by
  rw [Operation.code, Operation.code, Bracket.around, Bracket.around, debug_resembles alike,
    effectBracket_resembles alike]

end Lifecycle

namespace Connection

open Code Lifecycle

variable {v w : View} {names : Names}

theorem Mode.select_resembles
    (alike : v.Resembles {"use_shared_connection", "specify_datasource_alias"} w) :
    Mode.select v = Mode.select w := by
  simp only [select, alike.flag _ (.inl rfl), alike.flag _ (.inr rfl)]

theorem Mode.select_agrees
    (agrees : v.Agrees {"use_shared_connection", "specify_datasource_alias"} w) :
    Mode.select v = Mode.select w :=
  Mode.select_resembles agrees.resembles

theorem StrategyKind.select_resembles (alike : v.Resembles {"driver_jar", "driver_class"} w) :
    StrategyKind.select v = StrategyKind.select w := by
  simp only [select, alike.isBlank (.inl rfl), alike.isBlank (.inr rfl)]

theorem StrategyKind.select_agrees (agrees : v.Agrees {"driver_jar", "driver_class"} w) :
    StrategyKind.select v = StrategyKind.select w :=
  StrategyKind.select_resembles agrees.resembles

namespace Strategy

variable {kind : StrategyKind}

theorem driverClass_congr (driver : v.get "driver_class" = w.get "driver_class") :
    driverClass ⟨kind, v, names⟩ = driverClass ⟨kind, w, names⟩ := by
  simp only [driverClass, driver]

/-- A driver that is named takes the address as it stands. -/
theorem buildUrl_resembles (alike : v.Resembles {"url"} w)
    (copied : kind = .driverSpecified → v.get "url" = w.get "url") :
    buildUrl? ⟨kind, v, names⟩ = buildUrl? ⟨kind, w, names⟩ := by
  cases kind with
  | generic =>
    refine if_ctx_congr (by rw [alike.isBlank rfl]) (fun _ => rfl) fun shows => ?_
    rw [alike.get_of_shows rfl (Bool.eq_false_iff.mpr shows)]
  | driverSpecified => simp only [buildUrl?, copied rfl]

theorem setAutocommit_resembles (alike : v.Resembles {"use_transaction"} w) (flag : Bool) :
    setAutocommit? ⟨kind, v, names⟩ flag = setAutocommit? ⟨kind, w, names⟩ flag := by
  simp only [setAutocommit?, alike.flag _ rfl]

theorem acquireShared_congr (driver : v.get "driver_class" = w.get "driver_class")
    (name : v.get "shared_connection_name" = w.get "shared_connection_name") :
    acquireShared ⟨kind, v, names⟩ = acquireShared ⟨kind, w, names⟩ := by
  have driver := @driverClass_congr v w names kind driver
  simp only [acquireShared, driver, sharedName, name]

end Strategy

/-- A user or a password is read where it shows. -/
theorem Credentials.statements_resembles (alike : v.Resembles {"user", "password"} w)
    (encrypted : v.stage.encrypted = w.stage.encrypted) :
    Credentials.statements { view := v, names } = Credentials.statements { view := w, names } := by
  have user : Credentials.userBinding { view := v, names } =
      Credentials.userBinding { view := w, names } := by
    refine congrArg (fun o => Statement.bind names.dbUser (.operand o)) ?_
    refine if_ctx_congr (by rw [alike.isBlank (.inl rfl)]) (fun _ => rfl) fun shows => ?_
    rw [alike.get_of_shows (.inl rfl) (Bool.eq_false_iff.mpr shows)]
  have mode : Credentials.mode { view := v, names } = Credentials.mode { view := w, names } := by
    have blank : v.isBlank "password" = w.isBlank "password" := alike.isBlank (.inr rfl)
    have hidden : v.isEncrypted "password" = w.isEncrypted "password" := by
      rw [View.isEncrypted, View.isEncrypted, encrypted]
    exact if_congr (by rw [blank]) rfl (if_congr (by rw [hidden]) rfl rfl)
  have password : Credentials.passwordBindings { view := v, names } =
      Credentials.passwordBindings { view := w, names } := by
    cases blank : w.isBlank "password" with
    | true =>
      have absent : Credentials.mode { view := w, names } = .absent := if_pos blank
      simp only [Credentials.passwordBindings, mode, absent]
    | false =>
      simp only [Credentials.passwordBindings, mode, View.encryptedText, encrypted,
        alike.get_of_shows (.inr rfl) blank]
  rw [Credentials.statements, Credentials.statements, user, password]

/-- The parameters that the code of a step depends on. What the credentials depend on is not among
them. -/
def State.reads (mode : Mode) : State → Set String
  | .init | .done => ∅
  | .driverLoaded => {"driver_class"}
  | .urlBuilt => {"url"}
  | .connected => {"use_existing_connection", "connection"} ∪
      if mode = .shared then {"driver_class", "shared_connection_name"} else {"user"}
  | .autoCommitSet => {"auto_commit", "use_transaction"}
  | .registered => if mode = .served then {"datasource_alias"} else ∅

/-- The parameters that a step writes down as they stand, blank ones too. -/
def State.copies (kind : StrategyKind) (mode : Mode) : State → Set String
  | .driverLoaded => {"driver_class"}
  | .urlBuilt => if kind = .driverSpecified then {"url"} else ∅
  | .connected => if mode = .shared then {"driver_class", "shared_connection_name"} else ∅
  | .init | .autoCommitSet | .registered | .done => ∅

theorem State.copies_subset_reads (kind : StrategyKind) (mode : Mode) (state : State) :
    state.copies kind mode ⊆ state.reads mode := by
  cases state <;> simp only [copies, reads] <;> (try split) <;> simp

/-- A step of one mode and one strategy is written alike for views that resemble each other in what
it reads, if they hold the same of what it copies. -/
theorem Request.code_resembles {kind : StrategyKind} {state : State}
    (mode : Mode.select v = Mode.select w) (alike : v.Resembles (state.reads (Mode.select w)) w)
    (copied : ∀ key ∈ state.copies kind (Mode.select w), v.get key = w.get key)
    (credentials : state = .urlBuilt → Credentials.statements { view := v, names } =
      Credentials.statements { view := w, names }) :
    Request.code ⟨v, names, ⟨kind, v, names⟩⟩ state =
      Request.code ⟨w, names, ⟨kind, w, names⟩⟩ state := by
  rw [Request.code_eq, Request.code_eq]
  cases state with
  | init => rfl
  | driverLoaded =>
    have driver := @Strategy.driverClass_congr v w names kind (copied _ rfl)
    simp only [Strategy.loadClass, driver, Operation.code, debug_resembles alike]
    rfl
  | urlBuilt =>
    have address := @Strategy.buildUrl_resembles v w names kind alike fun specified =>
      copied _ (by simp [State.copies, specified])
    simp only [address, credentials rfl]
  | connected =>
    have existing : v.flag "use_existing_connection" = w.flag "use_existing_connection" :=
      alike.flag _ (by simp [State.reads])
    have reuse := @reuse_resembles v w names (alike.mono Set.subset_union_left)
    have sharing : Request.mode ⟨v, names, ⟨kind, v, names⟩⟩ = .shared ↔
        Request.mode ⟨w, names, ⟨kind, w, names⟩⟩ = .shared := by
      rw [Request.mode, Request.mode, mode]
    refine congrArg₂ (· ++ ·) (if_ctx_congr sharing ?_ ?_) (if_congr (by rw [existing]) reuse rfl)
    · intro (shared : Mode.select w = .shared)
      have log : Operation.code v names .shareLog = Operation.code w names .shareLog := by
        simp only [Operation.code, alike.logEnabled, alike.cid]
      have acquire := @Strategy.acquireShared_congr v w names kind
        (copied _ (by simp [State.copies, shared])) (copied _ (by simp [State.copies, shared]))
      rw [log, acquire]
    · intro (notShared : Mode.select w ≠ .shared)
      exact connect_resembles (alike.mono (by simp [State.reads, notShared])) _
  | autoCommitSet =>
    have setting := @Strategy.setAutocommit_resembles v w names kind
      (alike.mono (by simp [State.reads]))
    have flag : v.flag "auto_commit" = w.flag "auto_commit" := alike.flag _ (by simp [State.reads])
    simp only [flag, setting, Operation.code, debug_resembles alike]
  | registered =>
    have serving : Request.mode ⟨v, names, ⟨kind, v, names⟩⟩ = .served ↔
        Request.mode ⟨w, names, ⟨kind, w, names⟩⟩ = .served := by
      rw [Request.mode, Request.mode, mode]
    refine congrArg₂ (· ++ ·) (if_ctx_congr serving ?_ fun _ => rfl) rfl
    intro (served : Mode.select w = .served)
    have name : v.trimmed "datasource_alias" = w.trimmed "datasource_alias" :=
      alike.trimmed (by simp [State.reads, served])
    rw [Request.lookupServed, Request.lookupServed, name]
  | done => rfl

/-- A step of one mode and one strategy is written alike for views that agree on what it reads. -/
theorem Request.code_agrees {kind : StrategyKind} {state : State}
    (mode : Mode.select v = Mode.select w) (agrees : v.Agrees (state.reads (Mode.select w)) w)
    (credentials : state = .urlBuilt → Credentials.statements { view := v, names } =
      Credentials.statements { view := w, names }) :
    Request.code ⟨v, names, ⟨kind, v, names⟩⟩ state =
      Request.code ⟨w, names, ⟨kind, w, names⟩⟩ state :=
  Request.code_resembles mode agrees.resembles
    (fun _ copied => agrees.get (State.copies_subset_reads kind _ state copied)) credentials

end Connection

namespace Generation

open Code Lifecycle Connection

theorem effectCode_resembles {v w : View}
    (alike : v.Resembles {"use_existing_connection", "connection", "data_action", "close"} w)
    (names : Names) (e : Effect) : effectCode v names e = effectCode w names e := by
  have connection : v.trimmed "connection" = w.trimmed "connection" := alike.trimmed (by simp)
  have action : dataAction v = dataAction w := dataAction_resembles (alike.mono (by simp))
  have close : v.flag "close" = w.flag "close" := alike.flag _ (by simp)
  have reuse := @reuse_resembles v w names (alike.mono (by simp [Set.insert_subset_iff]))
  have effect := @effect_resembles v w names (alike.mono (by simp [Set.insert_subset_iff]))
  simp only [effectCode_eq, connection, action, close, reuse, effect]

section Keys

variable {v w : View}

theorem labelKeys_resembles (alike : v.Resembles {"use_existing_connection"} w) :
    labelKeys v = labelKeys w := by
  have reuse : v.trimmed "use_existing_connection" = w.trimmed "use_existing_connection" :=
    alike.trimmed rfl
  rw [labelKeys, labelKeys, reuse]

theorem reuse_demands_resembles (alike : v.Resembles {"use_existing_connection"} w) :
    Operation.reuse.demands v = Operation.reuse.demands w := by
  simp only [Operation.demands, alike.logEnabled, alike.component, labelKeys_resembles alike]

/-- What a stage looks at is decided by a few of the parameters. -/
theorem generationKeys_resembles (alike : v.Resembles {"use_shared_connection",
    "specify_datasource_alias", "driver_jar", "driver_class", "use_existing_connection", "close"} w)
    (kind : StageKind) : generationKeys kind v = generationKeys kind w := by
  have label : v.Resembles {"use_existing_connection"} w := alike.mono (by simp)
  have effect (e : Effect) : (effectParts v ⟨v.cid⟩ e).flatMap Part.keys =
      (effectParts w ⟨w.cid⟩ e).flatMap Part.keys := by
    have close : v.flag "close" = w.flag "close" := alike.flag _ (by simp)
    have bracket : (Operation.effect e).keys v = (Operation.effect e).keys w := by
      simp only [Operation.keys_effect, labelKeys_resembles label]
    simp only [keys_effectParts, reuse_demands_resembles label, labelKeys_resembles label, close,
      bracket]
  cases kind with
  | connection =>
    have mode : Mode.select v = Mode.select w :=
      Mode.select_resembles (alike.mono (by simp [Set.insert_subset_iff]))
    have strategy : StrategyKind.select v = StrategyKind.select w :=
      StrategyKind.select_resembles (alike.mono (by simp [Set.insert_subset_iff]))
    have jar : v.isBlank "driver_jar" = w.isBlank "driver_jar" := alike.isBlank (by simp)
    have shared : v.flag "use_shared_connection" = w.flag "use_shared_connection" :=
      alike.flag _ (by simp)
    have existing : v.flag "use_existing_connection" = w.flag "use_existing_connection" :=
      alike.flag _ (by simp)
    have reuse : reuseKeys v = reuseKeys w := by
      rw [reuseKeys, reuseKeys, existing, reuse_demands_resembles label]
    have classKeys : (request v).strategy.classKeys = (request w).strategy.classKeys := by
      simp only [Strategy.classKeys, request, Strategy.select, strategy]
    have autocommitKeys :
        (request v).strategy.autocommitKeys = (request w).strategy.autocommitKeys := by
      simp only [Strategy.autocommitKeys, request, Strategy.select, strategy]
    simp only [generationKeys, StrategyKind.keys, Mode.keys, routeKeys_eq, mode, jar, shared, reuse,
      classKeys, autocommitKeys]
  | commit => exact effect .commit
  | rollback => exact effect .rollback
  | close => exact effect .close

end Keys

end Generation

end Stagewright
