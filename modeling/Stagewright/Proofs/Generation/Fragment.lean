import Stagewright.Proofs.Connection.Walk
import Stagewright.Proofs.Generation.Demands

/-!
The code that each generator hands over, without the plan it was written to. A stage is refused for
the first parameter looked at that there is too much in, and generated otherwise.
-/

namespace Stagewright.Generation

open Code Lifecycle Connection

/-- The code of a stage that ends the work on a connection. -/
def effectCode (view : View) (names : Names) (e : Effect) : Code :=
  (effectParts view names e).flatMap Part.code

theorem effectCode_eq (view : View) (names : Names) (e : Effect) :
    effectCode view names e =
      ofStatements [lookup names (view.trimmed "connection")] ++
        Operation.code view names .reuse ++
        Code.block (.whenPresent names.conn)
          ((if e = .commit ∧ dataAction view ≠ "" then
              ofStatements [.bind names.commitCounter
                (.recordCount (countKey (view.trimmed "connection")))]
            else []) ++
            Operation.code view names (.effect e) ++
            if e ≠ .close ∧ view.flag "close" then Operation.code view names (.effect .close)
            else []) := by
  have reuse := Operation.reuse.code_parts view names
  have effect := (Operation.effect e).code_parts view names
  have close := (Operation.effect .close).code_parts view names
  unfold effectCode effectParts
  cases flag : view.flag "close" <;> cases e <;>
    simp [reuse, effect, close, ofStatements, Code.block]

/-- The code of a stage of a kind. A connection has the code of the steps on its route. -/
def stageCode (kind : StageKind) (view : View) : Code :=
  match kind with
  | .connection => (request view).mode.route.flatMap (request view).code
  | .commit => effectCode view ⟨view.cid⟩ .commit
  | .rollback => effectCode view ⟨view.cid⟩ .rollback
  | .close => effectCode view ⟨view.cid⟩ .close

def fragment (kind : StageKind) (view : View) : Fragment :=
  ⟨view.cid, view.component, stageCode kind view⟩

/-- The plan of a stage goes by the family that the stage goes by. -/
theorem start_view (view : View) :
    Plan.start view.cid view.component = { cid := view.cid, component := view.component } := by
  have family : (if view.component.isEmpty then view.cid else view.component) =
      view.component := by
    split
    · rename_i unnamed
      simp only [View.component, View.cid, Stage.family] at unnamed ⊢
      split at unnamed
      · rw [if_pos ‹_›]
      · exact absurd unnamed ‹_›
    · rfl
  simp only [Plan.start, family]

theorem generateEffect_eq (view : View) (e : Effect) :
    (generateEffect view e).1 =
      match view.excess? ((effectParts view ⟨view.cid⟩ e).flatMap Part.keys) with
      | some e => .error (.excess e)
      | none => .ok ⟨view.cid, view.component, effectCode view ⟨view.cid⟩ e⟩ := by
  have opened : (Plan.start view.cid view.component).closed = false := rfl
  rw [← excessOf?_eq (view_of_mem_effectParts view ⟨view.cid⟩ e), generateEffect]
  cases large : excessOf? (effectParts view ⟨view.cid⟩ e) with
  | some found =>
    have failed := Plan.write_open opened (effectParts view ⟨view.cid⟩ e)
    split
    · rename_i done
      simp_all
    · rename_i done
      simp_all
  | none =>
    rw [Plan.write_all opened large]
    simp [Plan.flush, start_view, Plan.fragment, effectCode]

/-- The plan of a connection is made and handed over, or there is too much in a parameter. -/
theorem planConnection_eq (view : View) :
    (planConnection view).1 =
      match excess? .connection view with
      | some e => .error (.excess e)
      | none => .ok { cid := view.cid, component := view.component,
                      code := stageCode .connection view, closed := true } := by
  rw [excess?, generationKeys, View.excess?_append, ← excess?_request]
  unfold planConnection
  cases view.excess? (StrategyKind.keys view ++ Mode.keys view) with
  | some e => simp
  | none =>
    have opened : (request view).planner.plan.closed = false := rfl
    rw [Option.none_or]
    cases large : (request view).excess? with
    | some e =>
      have failed := @Planner.run_excess (request view).planner rfl opened none e large
      simp only [failed, Except.map]
    | none =>
      rw [Planner.run_open rfl opened none (by exact large),
        Planner.flush_open (by exact opened)]
      simp [Planner.after, Request.planner, Planner.route, stageCode, start_view, request,
        Except.map]

theorem planConnection_ok {view : View} (fits : excess? .connection view = none) :
    (planConnection view).1 = .ok { cid := view.cid, component := view.component,
                                    code := stageCode .connection view, closed := true } := by
  rw [planConnection_eq, fits]

/-- Every built-in generator hands over the code of its stage, unless there is too much in a
parameter that it looks at. -/
theorem generateView_eq (kind : StageKind) (view : View) :
    (generateView kind view).1 =
      match excess? kind view with
      | some e => .error (.excess e)
      | none => .ok (fragment kind view) := by
  cases kind with
  | connection =>
    simp only [generateView, generateConnection, planConnection_eq]
    cases excess? .connection view <;> rfl
  | commit => exact generateEffect_eq view .commit
  | rollback => exact generateEffect_eq view .rollback
  | close => exact generateEffect_eq view .close

theorem generateView_ok_iff {kind : StageKind} {view : View} {result : Fragment} :
    (generateView kind view).1 = .ok result ↔
      excess? kind view = none ∧ fragment kind view = result := by
  rw [generateView_eq]
  cases excess? kind view <;> simp

/-- What becomes of a stage: it is refused for what is too much in a parameter that it looks at, and
if there is nothing of the kind, it is generated and its fragment has the property. -/
def Yields (kind : StageKind) (view : View) (property : Fragment → Prop) : Prop :=
  match excess? kind view with
  | some e => (generateView kind view).1 = .error (.excess e)
  | none => ∃ fragment, (generateView kind view).1 = .ok fragment ∧ property fragment

theorem yields_of_fragment {kind : StageKind} {view : View} {property : Fragment → Prop}
    (held : property (fragment kind view)) : Yields kind view property := by
  unfold Yields
  rw [generateView_eq]
  cases excess? kind view with
  | some e => rfl
  | none => exact ⟨_, rfl, held⟩

/-- The fragment of a stage, if the table has a generator for its kind. -/
def fragment? (table : Table) (settings : Settings) (stage : Stage) : Option Fragment :=
  (table.get? stage.kind).map fun kind => fragment kind ⟨stage, settings⟩

/-- Why a stage is not generated, if it is not. -/
def refusal? (table : Table) (settings : Settings) (stage : Stage) : Option GenerationError :=
  match table.get? stage.kind with
  | none => some (.emission (.unknownKind stage.cid stage.kind table.kinds))
  | some kind => (excess? kind ⟨stage, settings⟩).map .excess

theorem generateStage_eq {table : Table} {settings : Settings} {stage : Stage} {kind : StageKind}
    (known : table.get? stage.kind = some kind) :
    (generateStage table settings stage).1 = (generateView kind ⟨stage, settings⟩).1 := by
  simp only [generateStage, known]

theorem generateStages_cons (table : Table) (settings : Settings) (stage : Stage)
    (rest : List Stage) :
    (generateStages table settings (stage :: rest)).1 =
      match (generateStage table settings stage).1 with
      | .error e => .error e
      | .ok fragment => (generateStages table settings rest).1.map (fragment :: ·) := by
  simp only [generateStages]
  split
  · rename_i e records failed
    rw [failed]
  · rename_i fragment records done
    rw [done]

/-- Stages are generated exactly if none of them is refused, and then their fragments stand in the
order of the stages; otherwise the first that is refused decides. -/
theorem generateStages_eq (table : Table) (settings : Settings) (stages : List Stage) :
    (generateStages table settings stages).1 =
      match stages.findSome? (refusal? table settings) with
      | some e => .error e
      | none => .ok (stages.filterMap (fragment? table settings)) := by
  induction stages with
  | nil => rfl
  | cons stage rest ih =>
    rw [generateStages_cons, ih, List.findSome?_cons, List.filterMap_cons, refusal?, fragment?]
    cases known : table.get? stage.kind with
    | none => simp [generateStage, known]
    | some kind =>
      rw [generateStage_eq known, generateView_eq]
      cases large : excess? kind ⟨stage, settings⟩ with
      | some e => simp [large]
      | none => cases rest.findSome? (refusal? table settings) <;> simp [large, Except.map]

theorem generateStages_ok_iff {table : Table} {settings : Settings} {stages : List Stage}
    {program : Program} : (generateStages table settings stages).1 = .ok program ↔
      (∀ stage ∈ stages, refusal? table settings stage = none) ∧
        stages.filterMap (fragment? table settings) = program := by
  rw [generateStages_eq, ← List.findSome?_eq_none_iff]
  cases stages.findSome? (refusal? table settings) <;> simp

theorem generateProgram_eq (table : Table) (job : Job) :
    (generateProgram table job).1 =
      (generateStages table.orStandard job.settings job.stages).1 := by
  simp only [generateProgram]
  split <;> simp_all

theorem standard_get? (kind : String) : Table.standard.get? kind = StageKind.ofName? kind := by
  have same : (fun k : StageKind => decide (k.name = kind)) = fun k => k.name == kind :=
    funext fun _ => (Bool.beq_eq_decide_eq _ _).symm
  simp [Table.standard, Dict.get?, StageKind.ofName?, List.find?_map, Function.comp_def, same]

theorem standard_orStandard : Table.standard.orStandard = Table.standard := rfl

end Stagewright.Generation
