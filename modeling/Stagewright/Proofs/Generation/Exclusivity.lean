import Mathlib.Data.List.Basic
import Mathlib.Order.BooleanAlgebra.Set
import Stagewright.Proofs.Generation.Agreement

/-!
Which parameters decide on the plan of a connection. The mode of a stage fixes the steps that are
taken, and with them all that is read: whatever belongs to another mode, or to none, makes no
difference to the plan.
-/

namespace Stagewright

namespace Connection

/-- The parameters that the plan of a mode is made from, once mode and strategy are settled. -/
def Mode.reads : Mode → Set String
  | .direct => {"driver_class", "url", "user", "password", "use_existing_connection", "connection",
      "auto_commit", "use_transaction"}
  | .shared => {"driver_class", "url", "user", "password", "use_existing_connection", "connection",
      "auto_commit", "use_transaction", "shared_connection_name"}
  | .served => {"auto_commit", "use_transaction", "datasource_alias"}

theorem Mode.reads_route {mode : Mode} {state : State} (onRoute : state ∈ mode.route) :
    state.reads mode ⊆ mode.reads := by
  cases mode <;> cases state <;>
    simp_all [Mode.route, State.reads, Mode.reads, Set.insert_subset_iff]

/-- A mode that builds an address needs somebody to go there as. -/
theorem Mode.reads_credentials {mode : Mode} (notServed : mode ≠ .served) :
    {"user", "password"} ⊆ mode.reads := by
  cases mode <;> simp_all [Mode.reads, Set.insert_subset_iff]

theorem Mode.urlBuilt_not_mem_served : State.urlBuilt ∉ Mode.served.route := by decide

end Connection

namespace Generation

open Code Connection

variable {v w : View}

/-- The code of a connection is that of the steps of its mode, and depends on what they read. -/
theorem stageCode_agrees (mode : Mode.select v = Mode.select w)
    (strategy : StrategyKind.select v = StrategyKind.select w)
    (agrees : v.Agrees (Mode.select w).reads w)
    (encrypted : Mode.select w ≠ .served → v.stage.encrypted = w.stage.encrypted) :
    stageCode .connection v = stageCode .connection w := by
  have route : (request v).mode.route = (request w).mode.route := congrArg _ mode
  rw [stageCode, stageCode, route]
  refine List.flatMap_congr fun state onRoute => ?_
  rw [request, request, Strategy.select, Strategy.select, strategy, agrees.cid]
  refine Request.code_agrees mode (agrees.mono (Mode.reads_route onRoute)) fun building => ?_
  have notServed : Mode.select w ≠ .served := by
    intro served
    rw [building, Request.mode, request, served] at onRoute
    exact Mode.urlBuilt_not_mem_served onRoute
  exact Credentials.statements_resembles
    (agrees.mono (Mode.reads_credentials notServed)).resembles (encrypted notServed)

end Generation

namespace View

variable {v w : View} {α : Type}

/-- An answer to a question about a stage, if what is looked at for it can be written out. -/
def answered (view : View) (keys : List String) (answer : α) : Except Excess α :=
  match view.excess? keys with
  | some e => .error e
  | none => .ok answer

theorem answered_ok_iff {keys : List String} {a b : α} :
    v.answered keys a = .ok b ↔ v.excess? keys = none ∧ a = b := by
  unfold answered
  cases v.excess? keys <;> simp

theorem excess?_of_answered {keys keys' : List String} {a b : α}
    (same : v.answered keys a = w.answered keys' b) : v.excess? keys = w.excess? keys' := by
  unfold answered at same
  cases here : v.excess? keys <;> cases there : w.excess? keys' <;> simp_all

theorem Agrees.answered {keys : Set String} (agrees : v.Agrees keys w) {read : List String}
    (among : ∀ key ∈ read, key ∈ keys) (a : α) : v.answered read a = w.answered read a := by
  rw [View.answered, View.answered,
    excess?_congr fun key member => agrees.param key (among key member)]

end View

namespace Generation

open Code Connection Lifecycle

variable {v w : View}

/-- How a stage gets its connection, if what decides on it can be written out. -/
def selectMode (view : View) : Except Excess Mode :=
  view.answered (Mode.keys view) (Mode.select view)

/-- Whether a stage leaves the driver open: neither its file nor its class is given, if that much
can be written out. -/
def isDriverless (view : View) : Except Excess Bool :=
  view.answered (StrategyKind.keys view) (view.isBlank "driver_jar" && view.isBlank "driver_class")

/-- The strategy goes by whether the driver is left open. -/
theorem strategy_of_isDriverless {driverless : Bool} (found : isDriverless v = .ok driverless) :
    StrategyKind.select v = if driverless then .generic else .driverSpecified := by
  rw [StrategyKind.select, (View.answered_ok_iff.mp found).2]

theorem selectMode_agrees
    (agrees : v.Agrees {"use_shared_connection", "specify_datasource_alias"} w) :
    selectMode v = selectMode w := by
  have keys : Mode.keys v = Mode.keys w := by simp only [Mode.keys, agrees.flag (.inl rfl)]
  rw [selectMode, selectMode, keys, Mode.select_agrees agrees]
  refine agrees.answered ?_ _
  unfold Mode.keys
  split <;> simp

theorem isDriverless_agrees (agrees : v.Agrees {"driver_jar", "driver_class"} w) :
    isDriverless v = isDriverless w := by
  have jar : v.isBlank "driver_jar" = w.isBlank "driver_jar" := agrees.isBlank (.inl rfl)
  have keys : StrategyKind.keys v = StrategyKind.keys w := by simp only [StrategyKind.keys, jar]
  rw [isDriverless, isDriverless, keys, jar, agrees.isBlank (.inr rfl)]
  refine agrees.answered ?_ _
  unfold StrategyKind.keys
  split <;> simp

theorem classKeys_subset (strategy : Strategy) :
    ∀ key ∈ strategy.classKeys, key = "driver_class" := by
  unfold Strategy.classKeys
  split <;> simp

theorem autocommitKeys_subset (strategy : Strategy) :
    ∀ key ∈ strategy.autocommitKeys, key = "use_transaction" := by
  unfold Strategy.autocommitKeys
  split <;> simp

theorem labelKeys_subset (view : View) :
    ∀ key ∈ labelKeys view, key = "use_existing_connection" ∨ key = "connection" := by
  unfold labelKeys
  dsimp only
  split <;> simp

theorem reuseKeys_subset (view : View) :
    ∀ key ∈ reuseKeys view, key = "use_existing_connection" ∨ key = "connection" := by
  simp only [reuseKeys, Operation.demands]
  split
  · split
    · exact labelKeys_subset view
    · simp
  · simp

/-- The steps of a route look at nothing but what its mode is made from. -/
theorem routeKeys_subset_reads (view : View) :
    ∀ key ∈ routeKeys view, key ∈ (Mode.select view).reads := by
  intro key member
  have driver := classKeys_subset (request view).strategy key
  have switch := autocommitKeys_subset (request view).strategy key
  have label := reuseKeys_subset view key
  rw [routeKeys_eq] at member
  cases selected : Mode.select view with
  | served =>
    simp only [selected, List.mem_cons] at member
    rcases member with rfl | rfl | member
    · simp [Mode.reads]
    · simp [Mode.reads]
    · simp [Mode.reads, switch member]
  | direct =>
    simp only [selected, List.mem_append, List.mem_cons, List.not_mem_nil, or_false] at member
    rcases member with ((member | member) | member) | rfl | member
    · simp [Mode.reads, driver member]
    · rcases member with rfl | rfl | rfl | rfl | rfl <;> simp [Mode.reads]
    · rcases label member with rfl | rfl <;> simp [Mode.reads]
    · simp [Mode.reads]
    · simp [Mode.reads, switch member]
  | shared =>
    simp only [selected, List.mem_append, List.mem_cons, List.not_mem_nil, or_false] at member
    rcases member with ((member | member) | rfl | member) | rfl | member
    · rcases member with rfl | rfl | rfl | rfl <;> simp [Mode.reads]
    · simp [Mode.reads, driver member]
    · simp [Mode.reads]
    · rcases label member with rfl | rfl <;> simp [Mode.reads]
    · simp [Mode.reads]
    · simp [Mode.reads, switch member]

theorem excess?_routeKeys_agrees (mode : Mode.select v = Mode.select w)
    (strategy : StrategyKind.select v = StrategyKind.select w)
    (agrees : v.Agrees (Mode.select w).reads w) :
    v.excess? (routeKeys v) = w.excess? (routeKeys w) := by
  have reuse (among : "use_existing_connection" ∈ (Mode.select w).reads) :
      reuseKeys v = reuseKeys w := by
    rw [reuseKeys, reuseKeys, agrees.flag among,
      reuse_demands_resembles (agrees.mono (Set.singleton_subset_iff.mpr among)).resembles]
  have keys : routeKeys v = routeKeys w := by
    simp only [routeKeys_eq, request, Strategy.select, Strategy.classKeys, Strategy.autocommitKeys,
      mode, strategy]
    cases selected : Mode.select w with
    | served => rfl
    | direct => rw [reuse (by simp [selected, Mode.reads])]
    | shared => rw [reuse (by simp [selected, Mode.reads])]
  rw [keys]
  exact View.excess?_congr fun key member => agrees.param key (routeKeys_subset_reads w key member)

/-- Two stages have the same plan if they get their connections in one mode, both name a driver or
both leave it open, and they agree on what the mode reads. -/
theorem planConnection_agrees (mode : selectMode v = selectMode w)
    (driverless : isDriverless v = isDriverless w)
    (agrees : ∀ m, selectMode w = .ok m → v.Agrees m.reads w)
    (encrypted : selectMode w ≠ .ok .served → v.stage.encrypted = w.stage.encrypted) :
    (planConnection v).1 = (planConnection w).1 := by
  rw [planConnection_eq, planConnection_eq, excess?_connection, excess?_connection,
    View.excess?_of_answered mode, View.excess?_of_answered driverless]
  cases selected : selectMode w with
  | error e =>
    cases large : w.excess? (Mode.keys w) with
    | none => simp [selectMode, View.answered, large] at selected
    | some e => cases w.excess? (StrategyKind.keys w) <;> rfl
  | ok m =>
    cases left : isDriverless w with
    | error e =>
      cases large : w.excess? (StrategyKind.keys w) with
      | none => simp [isDriverless, View.answered, large] at left
      | some e => rfl
    | ok open? =>
      have inV := (View.answered_ok_iff.mp (mode.trans selected)).2
      have inW := (View.answered_ok_iff.mp selected).2
      have same : Mode.select v = Mode.select w := inV.trans inW.symm
      have strategy : StrategyKind.select v = StrategyKind.select w := by
        rw [strategy_of_isDriverless (driverless.trans left), strategy_of_isDriverless left]
      have read : v.Agrees (Mode.select w).reads w := inW ▸ agrees m selected
      have hidden : Mode.select w ≠ .served → v.stage.encrypted = w.stage.encrypted :=
        fun notServed => encrypted fun served => notServed (View.answered_ok_iff.mp served).2
      rw [excess?_routeKeys_agrees same strategy read, stageCode_agrees same strategy read hidden,
        read.cid, read.component]

/-- All parameters that a connection is ever generated from. -/
def consumed : Set String :=
  {"use_shared_connection", "specify_datasource_alias", "driver_jar", "driver_class", "url", "user",
    "password", "use_existing_connection", "connection", "auto_commit", "use_transaction",
    "shared_connection_name", "datasource_alias"}

theorem reads_subset_consumed (mode : Mode) : mode.reads ⊆ consumed := by
  cases mode <;> simp [Mode.reads, consumed, Set.insert_subset_iff]

/-- Each mode keeps to its own parameters. A shared connection has nothing to do with the source of
another one, one of its own with neither that nor a shared name, and one that is served with
nothing but the name of its source, what is set on it, and whether a driver is named at all. -/
theorem modes_keep_apart (v w : View) :
    (selectMode v = .ok .shared → selectMode w = .ok .shared →
      v.Agrees {"specify_datasource_alias", "datasource_alias"}ᶜ w →
      v.stage.encrypted = w.stage.encrypted → (planConnection v).1 = (planConnection w).1) ∧
    (selectMode v = .ok .direct → selectMode w = .ok .direct →
      v.Agrees {"shared_connection_name", "datasource_alias"}ᶜ w →
      v.stage.encrypted = w.stage.encrypted → (planConnection v).1 = (planConnection w).1) ∧
    (selectMode v = .ok .served → selectMode w = .ok .served →
      v.Agrees {"use_transaction", "auto_commit", "datasource_alias"} w →
      isDriverless v = isDriverless w → (planConnection v).1 = (planConnection w).1) ∧
    (v.Agrees consumed w → v.stage.encrypted = w.stage.encrypted →
      (planConnection v).1 = (planConnection w).1) := by
  refine ⟨?shared, ?direct, ?served, ?consumed⟩
  case shared =>
    intro inV inW agrees encrypted
    refine planConnection_agrees (inV.trans inW.symm)
      (isDriverless_agrees (agrees.mono (by simp [Set.insert_subset_iff])))
      (fun m selected => ?_) fun _ => encrypted
    obtain rfl := Except.ok.inj (inW.symm.trans selected)
    exact agrees.mono (by simp [Mode.reads, Set.insert_subset_iff])
  case direct =>
    intro inV inW agrees encrypted
    refine planConnection_agrees (inV.trans inW.symm)
      (isDriverless_agrees (agrees.mono (by simp [Set.insert_subset_iff])))
      (fun m selected => ?_) fun _ => encrypted
    obtain rfl := Except.ok.inj (inW.symm.trans selected)
    exact agrees.mono (by simp [Mode.reads, Set.insert_subset_iff])
  case served =>
    intro inV inW agrees driverless
    refine planConnection_agrees (inV.trans inW.symm) driverless (fun m selected => ?_)
      fun notServed => absurd inW notServed
    obtain rfl := Except.ok.inj (inW.symm.trans selected)
    exact agrees.mono (by simp [Mode.reads, Set.insert_subset_iff])
  case consumed =>
    intro agrees encrypted
    refine planConnection_agrees
      (selectMode_agrees (agrees.mono (by simp [consumed, Set.insert_subset_iff])))
      (isDriverless_agrees (agrees.mono (by simp [consumed, Set.insert_subset_iff])))
      (fun m _ => agrees.mono (reads_subset_consumed m)) fun _ => encrypted

/-- A stage of a job with a log, with one text as a parameter before those that choose a mode. -/
def viewIn (mode : Mode) (key text : String) : View :=
  let chosen : Mapping := match mode with
    | .shared => [(.text "use_shared_connection", .bool true)]
    | .served => [(.text "specify_datasource_alias", .bool true),
        (.text "datasource_alias", .text "orders")]
    | .direct => []
  ⟨{ cid := "c", params := (.text key, .text text) :: chosen }, { logEnabled := true }⟩

theorem viewIn_agrees (mode : Mode) (key text other : String) :
    View.Agrees {key}ᶜ (viewIn mode key text) (viewIn mode key other) where
  cid := rfl
  component := rfl
  logEnabled := rfl
  param found apart := by
    have different : (Scalar.text key == Scalar.text found) = false := by
      simpa [BEq.beq, Scalar.identity, eq_comm] using apart
    simp [viewIn, Mapping.get?, Dict.get?, different]

/-- Pairs of stages with one plan, for each way in which they may differ. The drivers of those that
are served are named in two ways. -/
theorem modes_keep_apart_in_pairs :
    (planConnection (viewIn .shared "datasource_alias" "a")).1 =
        (planConnection (viewIn .shared "datasource_alias" "b")).1 ∧
      (planConnection (viewIn .direct "shared_connection_name" "a")).1 =
        (planConnection (viewIn .direct "shared_connection_name" "b")).1 ∧
      (planConnection (viewIn .served "driver_jar" "a")).1 =
        (planConnection (viewIn .served "driver_class" "b")).1 ∧
      (planConnection (viewIn .direct "host" "a")).1 =
        (planConnection (viewIn .direct "host" "b")).1 := by
  refine ⟨(modes_keep_apart _ _).1 rfl rfl ?_ rfl, (modes_keep_apart _ _).2.1 rfl rfl ?_ rfl,
    (modes_keep_apart _ _).2.2.1 rfl rfl ⟨rfl, rfl, rfl, ?_⟩ rfl,
    (modes_keep_apart _ _).2.2.2 ?_ rfl⟩
  · exact (viewIn_agrees _ _ _ _).mono (Set.compl_subset_compl.mpr (by simp))
  · exact (viewIn_agrees _ _ _ _).mono (Set.compl_subset_compl.mpr (by simp))
  · rintro key (rfl | rfl | rfl) <;> rfl
  · exact (viewIn_agrees _ _ _ _).mono (Set.subset_compl_singleton_iff.mpr (by simp [consumed]))

end Generation

end Stagewright
