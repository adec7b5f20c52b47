import Stagewright.Proofs.Code.Position
import Stagewright.Proofs.Connection.Walk
import Stagewright.Proofs.Generation.Milestones
import Stagewright.Proofs.Text.Blank
import Stagewright.Proofs.Validation.References

/-!
What the checks of a connection have to do with its code. They find an error exactly where a slot of
the code, into which an expression of the configuration goes, is left without one.
-/

namespace Stagewright

namespace Code

/-- The expression is more than white space. -/
def Expr.Filled (e : Expr) : Prop := Text.isBlankText e.text = false

/-- The slots of a statement hold expressions: the address, the class of the driver, wherever it
stands, and the names of what is shared or served, for which nothing else may stand in. -/
def Statement.Filled : Statement → Prop
  | .bind _ (.pooled driverClass _ _ _ _) => (Expr.operand driverClass).Filled
  | .bind ⟨.url, _⟩ e | .bind ⟨.driverClass, _⟩ e => e.Filled
  | .bind ⟨.sharedConnectionName, _⟩ e | .bind ⟨.dsAlias, _⟩ e =>
    e.Filled ∧ e ≠ .operand .emptyText
  | _ => True

section Each

variable {holds : Statement → Prop}

theorem each_append_iff {a b : Code} : Each holds (a ++ b) ↔ Each holds a ∧ Each holds b :=
  List.forall_mem_append

theorem each_ofStatements_iff {statements : List Statement} :
    Each holds (ofStatements statements) ↔ ∀ s ∈ statements, holds s :=
  List.forall_mem_map

theorem each_flatMap_iff {α : Type} {steps : List α} {code : α → Code} :
    Each holds (steps.flatMap code) ↔ ∀ step ∈ steps, Each holds (code step) := by
  simp only [Each, List.forall_mem_flatMap]

end Each

end Code

namespace Lifecycle

open Code

variable {view : View} {names : Names}

theorem filled_message (level text : String) (args : List Expr) :
    Each Statement.Filled (message view level text args) :=
  .ite (fun _ => .cons trivial .nil) fun _ => .nil

theorem filled_reuse : Each Statement.Filled (Operation.code view names .reuse) := by
  refine .ite (fun _ => ?_) fun _ => .nil
  refine .block trivial (.append (.cons trivial .nil) (.block trivial ?_))
  exact .ite (fun _ => filled_message _ _ _) fun _ => filled_message _ _ _

end Lifecycle

namespace Connection

open Code Lifecycle

section Slots

variable {kind : StrategyKind} {view : View}

/-- A driver that is left open has an empty text for its class, and that is an expression. -/
theorem filled_driverClass_iff (names : Names) :
    (Expr.operand (Strategy.driverClass ⟨kind, view, names⟩)).Filled ↔
      (kind = .driverSpecified → view.isBlank "driver_class" = false) := by
  cases kind with
  | generic =>
    have written : Text.isBlankText "\"\"" = false := by decide
    exact iff_of_true written (by simp)
  | driverSpecified => exact ⟨fun filled _ => filled, fun given => given rfl⟩

/-- An address is left out rather than left blank, unless it is the driver that asks for one. -/
theorem filled_buildUrl_iff (names : Names) :
    (∀ s ∈ (Strategy.buildUrl? ⟨kind, view, names⟩).toList, s.Filled) ↔
      (kind = .driverSpecified → view.isBlank "url" = false) := by
  cases kind with
  | generic =>
    refine iff_of_true (fun s built => ?_) (by simp)
    cases blank : view.isBlank "url" with
    | true => simp [Strategy.buildUrl?, blank] at built
    | false =>
      obtain rfl : s = .bind names.url (.operand (.given (view.get "url"))) := by
        simpa [Strategy.buildUrl?, blank] using built
      exact blank
  | driverSpecified =>
    exact List.forall_mem_singleton.trans ⟨fun filled _ => filled, fun given => given rfl⟩

/-- The name of a shared connection is written as it stands, also where it is all white space. -/
theorem filled_sharedName_iff (names : Names) :
    ((Expr.operand (Strategy.sharedName ⟨kind, view, names⟩)).Filled ∧
        Expr.operand (Strategy.sharedName ⟨kind, view, names⟩) ≠ .operand .emptyText) ↔
      view.isBlank "shared_connection_name" = false := by
  simp only [Strategy.sharedName]
  split
  · rename_i empty
    have blank : view.isBlank "shared_connection_name" = true := by
      rw [View.isBlank, String.isEmpty_iff.mp empty]
      rfl
    simp [blank]
  · exact and_iff_left (by simp)

/-- What the configuration has to hold for the slots of a step to be filled. -/
def State.FillsSlots (kind : StrategyKind) (view : View) : State → Prop
  | .driverLoaded => kind = .driverSpecified → view.isBlank "driver_class" = false
  | .urlBuilt => kind = .driverSpecified → view.isBlank "url" = false
  | .connected =>
    Mode.select view = .shared → view.isBlank "shared_connection_name" = false ∧
      (kind = .driverSpecified → view.isBlank "driver_class" = false)
  | .registered => Mode.select view = .served → view.isBlank "datasource_alias" = false
  | .init | .autoCommitSet | .done => True

variable (kind view)

theorem filled_connected_iff :
    Each Statement.Filled ((requestBy kind view).code .connected) ↔
      State.FillsSlots kind view .connected := by
  have reuse : Each Statement.Filled (if view.flag "use_existing_connection" then
      Operation.code view ⟨view.cid⟩ .reuse else []) :=
    .ite (fun _ => filled_reuse) fun _ => .nil
  rw [Request.code_eq]
  refine each_append_iff.trans ((and_iff_left reuse).trans ?_)
  rw [requestBy_mode]
  by_cases shared : Mode.select view = .shared
  · have log : Each Statement.Filled (Operation.code view ⟨view.cid⟩ .shareLog) :=
      .ite (fun _ => .cons trivial .nil) fun _ => .nil
    rw [if_pos shared]
    refine (each_append_iff.trans (and_iff_right log)).trans ?_
    refine each_ofStatements_iff.trans (List.forall_mem_cons.trans ?_)
    rw [List.forall_mem_singleton]
    refine (and_congr (filled_sharedName_iff _) (filled_driverClass_iff _)).trans ?_
    exact ⟨fun filled _ => filled, fun given => given shared⟩
  · rw [if_neg shared]
    refine iff_of_true ?_ fun sharing => absurd sharing shared
    exact .append (.append (filled_message _ _ _) (.cons trivial .nil)) (filled_message _ _ _)

theorem filled_lookupServed_iff :
    Each Statement.Filled (requestBy kind view).lookupServed ↔
      view.isBlank "datasource_alias" = false := by
  have refusal : Each Statement.Filled (Code.block
      (.whenUnserved (Names.dataSources ⟨view.cid⟩) (Names.dsAlias ⟨view.cid⟩))
      (ofStatements [.raiseUnserved (Names.dsAlias ⟨view.cid⟩)])) :=
    .block trivial (.cons trivial .nil)
  have fetch : Each Statement.Filled (ofStatements [.bind (Names.conn ⟨view.cid⟩)
      (.served (Names.dataSources ⟨view.cid⟩) (Names.dsAlias ⟨view.cid⟩))]) :=
    .cons trivial .nil
  refine each_append_iff.trans ((and_iff_left fetch).trans ?_)
  refine each_append_iff.trans ((and_iff_left refusal).trans ?_)
  refine each_ofStatements_iff.trans (List.forall_mem_cons.trans ((and_iff_right trivial).trans ?_))
  refine List.forall_mem_singleton.trans ?_
  change (Expr.Filled (.operand (if (view.trimmed "datasource_alias").isEmpty then .emptyText
      else .given (view.trimmed "datasource_alias"))) ∧
    Expr.operand (if (view.trimmed "datasource_alias").isEmpty then .emptyText
      else .given (view.trimmed "datasource_alias")) ≠ .operand .emptyText) ↔ _
  split
  · rename_i empty
    have blank : view.isBlank "datasource_alias" = true :=
      Text.trim_eq_empty_iff.mp (String.isEmpty_iff.mp empty)
    simp [blank]
  · refine (and_iff_left (by simp)).trans ?_
    exact Eq.congr_left (Text.isBlankText_trim _)

theorem filled_init : Each Statement.Filled ((requestBy kind view).code .init) := by
  rw [Request.code_eq]
  have none : Text.isBlankText "None" = false := by decide
  exact .cons trivial (.cons none .nil)

theorem filled_credentials (credentials : Credentials) :
    Each Statement.Filled (ofStatements credentials.statements) := by
  refine .cons trivial ?_
  simp only [Credentials.passwordBindings]
  split
  · exact .cons trivial .nil
  · exact .cons trivial (.cons trivial .nil)
  · exact .cons trivial (.cons trivial .nil)

theorem filled_autoCommitSet :
    Each Statement.Filled ((requestBy kind view).code .autoCommitSet) := by
  simp only [Request.code_eq]
  split
  · exact .nil
  · rename_i setting chosen
    obtain rfl := Strategy.eq_setAutocommit chosen
    exact .block trivial (.append (filled_message _ _ _) (.cons trivial .nil))

/-- The slots of a step are filled exactly where the configuration holds what they ask for. -/
theorem filled_code_iff (state : State) :
    Each Statement.Filled ((requestBy kind view).code state) ↔ state.FillsSlots kind view := by
  cases state with
  | init => exact iff_of_true (filled_init kind view) trivial
  | driverLoaded =>
    rw [Request.code_eq]
    refine each_append_iff.trans ((and_iff_left (filled_message _ _ _)).trans ?_)
    refine each_ofStatements_iff.trans (List.forall_mem_cons.trans ?_)
    refine (and_iff_left (List.forall_mem_singleton.mpr trivial)).trans ?_
    exact filled_driverClass_iff _
  | urlBuilt =>
    simp only [Request.code_eq, ofStatements_append]
    refine each_append_iff.trans ((and_iff_left (filled_credentials _)).trans ?_)
    exact each_ofStatements_iff.trans (filled_buildUrl_iff _)
  | connected => exact filled_connected_iff kind view
  | autoCommitSet => exact iff_of_true (filled_autoCommitSet kind view) trivial
  | registered =>
    have publishing : Each Statement.Filled (ofStatements (registration ⟨view.cid⟩)) :=
      .cons trivial (.cons trivial (.cons trivial (.cons trivial .nil)))
    rw [Request.code_eq]
    refine each_append_iff.trans ((and_iff_left publishing).trans ?_)
    rw [requestBy_mode]
    by_cases served : Mode.select view = .served
    · rw [if_pos served]
      refine (filled_lookupServed_iff kind view).trans ?_
      exact ⟨fun filled _ => filled, fun given => given served⟩
    · rw [if_neg served]
      exact iff_of_true .nil fun serving => absurd serving served
  | done => exact iff_of_true .nil trivial

end Slots

end Connection

namespace Validation

open Code Connection Generation

theorem finding_warns_iff {condition : Bool} {f : Finding} (error : f.isWarning = false) :
    (∀ g ∈ finding condition f, g.isWarning = true) ↔ condition = false := by
  cases condition <;> simp [finding, error]

theorem finding_warns {condition : Bool} {f : Finding} (warning : f.isWarning = true) :
    ∀ g ∈ finding condition f, g.isWarning = true := by
  cases condition <;> simp [finding, warning]

theorem driverFindings_warn_iff (view : View) :
    (∀ f ∈ driverFindings view, f.isWarning = true) ↔
      (StrategyKind.select view = .driverSpecified →
        view.isBlank "driver_class" = false ∧ view.isBlank "url" = false) := by
  rw [driverFindings]
  cases StrategyKind.select view with
  | generic => exact iff_of_true (List.forall_mem_singleton.mpr rfl) (by simp)
  | driverSpecified =>
    refine List.forall_mem_append.trans ((and_iff_left (finding_warns rfl)).trans ?_)
    refine List.forall_mem_append.trans ?_
    refine (and_congr (finding_warns_iff rfl) (finding_warns_iff rfl)).trans ?_
    exact ⟨fun given _ => given, fun given => given rfl⟩

/-- A connection without errors has what each step of its route asks for. -/
theorem connectionFindings_warn_iff (view : View) :
    (∀ f ∈ connectionFindings view, f.isWarning = true) ↔
      ∀ state ∈ (Mode.select view).route, state.FillsSlots (StrategyKind.select view) view := by
  have found : (∀ f ∈ connectionFindings view, f.isWarning = true) ↔
      ((decide (Mode.select view = .shared) && view.isBlank "shared_connection_name") = false ∧
        (decide (Mode.select view = .served) && view.isBlank "datasource_alias") = false) ∧
      ∀ f ∈ if Mode.select view = .served then [] else driverFindings view,
        f.isWarning = true := by
    refine List.forall_mem_append.trans (and_congr_left' ?_)
    refine List.forall_mem_append.trans ((and_iff_left (finding_warns rfl)).trans ?_)
    exact List.forall_mem_append.trans (and_congr (finding_warns_iff rfl) (finding_warns_iff rfl))
  rw [found]
  cases selected : Mode.select view with
  | direct =>
    simp [Mode.route, State.FillsSlots, selected, driverFindings_warn_iff, imp_and]
  | shared =>
    simp [Mode.route, State.FillsSlots, selected, driverFindings_warn_iff, imp_and]
    tauto
  | served => simp [Mode.route, State.FillsSlots, selected]

/-- The slots of the plan are filled exactly where each step of the route has what it asks for. -/
theorem filled_stageCode_iff (view : View) :
    (∀ line ∈ stageCode .connection view, line.statement.Filled) ↔
      ∀ state ∈ (Mode.select view).route, state.FillsSlots (StrategyKind.select view) view :=
  each_flatMap_iff.trans (forall₂_congr fun state _ =>
    filled_code_iff (StrategyKind.select view) view state)

/-- Where the checks of a connection and its planner come to an end at all, the checks add no error
exactly if all slots of the plan are filled. -/
theorem unreported_iff_slots_filled (view : View) (known : List String)
    (connection : view.stage.kind = StageKind.connection.name) :
    (∀ e, checkStage known view = .error e ↔ view.excess? (keys view) = some e) ∧
    (∀ e, (planConnection view).1 = .error e ↔
      ∃ large, Generation.excess? .connection view = some large ∧ e = .excess large) ∧
    ∀ found plan, checkStage known view = .ok found → (planConnection view).1 = .ok plan →
      ((∀ result, (found.foldl ValidationResult.add result).errors = result.errors) ↔
        ∀ line ∈ plan.code, line.statement.Filled) := by
  have checked := checkStage_eq view.settings known view.stage
  have findings : findingsAt view.settings known view.stage = connectionFindings view :=
    if_pos connection
  refine ⟨fun e => ?_, fun e => ?_, fun found plan checks plans => ?_⟩
  · refine (Eq.congr_left checked).trans ?_
    rw [stageExcess?]
    cases View.excess? ⟨view.stage, view.settings⟩ (keys ⟨view.stage, view.settings⟩) <;> simp
  · rw [planConnection_eq]
    cases Generation.excess? .connection view <;> simp [eq_comm]
  · obtain rfl : connectionFindings view = found := by
      have ended := checked.symm.trans checks
      split at ended
      · exact absurd ended (by simp)
      · exact findings.symm.trans (Except.ok.inj ended)
    have code : plan.code = stageCode .connection view := by
      rw [planConnection_eq] at plans
      split at plans
      · exact absurd plans (by simp)
      · exact (congrArg Plan.code (Except.ok.inj plans)).symm
    have silent : (∀ result, ((connectionFindings view).foldl ValidationResult.add result).errors =
        result.errors) ↔ ∀ f ∈ connectionFindings view, f.isWarning = true := by
      have : Nonempty ValidationResult := ⟨{}⟩
      simp [ValidationResult.errors_foldl]
    rw [silent, code, filled_stageCode_iff, connectionFindings_warn_iff]

/-- The pool is asked for a driver by a class that is blank. -/
theorem unfilled_of_shared {view : View} (shared : Mode.select view = .shared)
    (specified : StrategyKind.select view = .driverSpecified)
    (blank : view.isBlank "driver_class" = true) :
    ¬∀ line ∈ stageCode .connection view, line.statement.Filled := by
  rw [filled_stageCode_iff]
  intro fills
  have asks := fills .connected (by rw [shared]; decide)
  have given := (asks shared).2 specified
  rw [blank] at given
  exact Bool.noConfusion given

/-- A stage that shares its connection and names the file of its driver, but not the class. -/
def classless (more : Mapping) : View where
  stage := {
    cid := "c"
    params := more ++ [(.text "use_shared_connection", .bool true),
      (.text "shared_connection_name", .text "\"n\""), (.text "url", .text "\"u\""),
      (.text "driver_jar", .text "\"x.jar\"")] }

/-- The class is missing, and the checks tell. -/
theorem classless_reported :
    (classless []).stage.kind = StageKind.connection.name ∧
      ∃ found plan, checkStage [] (classless []) = .ok found ∧
        (planConnection (classless [])).1 = .ok plan ∧
        (¬∀ line ∈ plan.code, line.statement.Filled) ∧
        ¬∀ result, (found.foldl ValidationResult.add result).errors = result.errors := by
  have connection : (classless []).stage.kind = StageKind.connection.name := rfl
  have checks : checkStage [] (classless []) = .ok (connectionFindings (classless [])) := by
    decide +kernel
  have plans := @planConnection_ok (classless []) (by decide +kernel)
  have blank := @unfilled_of_shared (classless []) (by decide +kernel) (by decide +kernel)
    (by decide +kernel)
  obtain ⟨-, -, agree⟩ := unreported_iff_slots_filled (classless []) [] connection
  exact ⟨connection, _, _, checks, plans, blank, mt (agree _ _ checks plans).mp blank⟩

/-- With a number that cannot be written out as a switch for its alias, the class is missing in the
plan just the same, and the checks break off before they tell. -/
theorem classless_not_reported :
    let view := classless
      [(.text "specify_datasource_alias", .int (Nat.pow 10 Excess.mostDigits))]
    checkStage [] view = .error .digits ∧
      ∃ plan, (planConnection view).1 = .ok plan ∧
        ¬∀ line ∈ plan.code, line.statement.Filled := by
  intro view
  have plans := @planConnection_ok view (by decide +kernel)
  exact ⟨by decide +kernel, _, plans,
    unfilled_of_shared (by decide +kernel) (by decide +kernel) (by decide +kernel)⟩

end Validation

end Stagewright
