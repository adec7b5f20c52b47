import Mathlib.Data.List.DropRight
import Stagewright.Proofs.Session.Acquisition
import Stagewright.Proofs.Session.Closing

/-!
The course of a session: one thing done after the other, whether it fails or not. The pool holds
what was opened last under each name since it was emptied, and wrappers are closed by the calls of
their closes.
-/

namespace Stagewright.Session

open Work

variable {σ : Type}

/-- What can be done with the pool, with connections and with drivers. The world may also change
without the session. -/
inductive Action (σ : Type) where
  | acquire (driverClass : String) (login : Login) (name : String)
  | closeAll
  | close (connection : Connection)
  | commit (connection : Connection)
  | rollback (connection : Connection)
  | setAutocommit (value : Value) (connection : Connection)
  | execute (sql : String) (connection : Connection)
  | connect (driver : Driver) (login : Login)
  | loadDriver (name : String)
  | registerDriver (name : String) (driver : Driver)
  | giveName (label : Option String)
  | elsewhere (change : σ → σ)

/-- An action as work; the connections that the pool hands out are its answers. -/
def Action.work (load : Loader σ) (world : World σ) : Action σ → Work σ (Option Connection)
  | .acquire driverClass login name => some <$> Session.acquire load world driverClass login name
  | .closeAll => (fun _ => none) <$> Session.closeAll world
  | .close c => (fun _ => none) <$> Session.close world c
  | .commit c => (fun _ => none) <$> Session.commit world c
  | .rollback c => (fun _ => none) <$> Session.rollback world c
  | .setAutocommit value c => (fun _ => none) <$> Session.setAutocommit world value c
  | .execute sql c => (fun _ => none) <$> Session.execute world sql c
  | .connect driver login => (fun _ => none) <$> Session.connect world driver login
  | .loadDriver name => (fun _ => none) <$> Session.loadDriver world name
  | .registerDriver name driver => (fun _ => none) <$> Session.registerDriver name driver
  | .giveName label => (fun _ => none) <$> Session.giveName label
  | .elsewhere change =>
    (fun _ => none) <$> modify fun session => { session with world := change session.world }

/-- Something that was done, between two sessions. -/
structure Step (σ : Type) where
  action : Action σ
  before : Session σ
  answer : Except Fault (Option Connection)
  after : Session σ

def Action.step (load : Loader σ) (world : World σ) (action : Action σ) (s : Session σ) : Step σ :=
  { action
    before := s
    answer := (on (action.work load world) s).1
    after := (on (action.work load world) s).2 }

namespace Step

/-- The pool has been emptied: all that it stored has been closed. -/
def empties (step : Step σ) : Bool :=
  match step.action, step.answer with
  | .closeAll, .ok _ => true
  | _, _ => false

/-- The connection that the pool has opened, with the name that it is shared under. -/
def opened? (world : World σ) (step : Step σ) : Option (String × Connection) :=
  match step.action, step.answer with
  | .acquire _ _ name, .ok (some c) =>
    if (step.before.usable? world name).isNone then some (name, c) else none
  | _, _ => none

/-- The calls of closes in the step. -/
def closings (world : World σ) (step : Step σ) : List (CloseCall σ) :=
  match step.action with
  | .close c => [⟨c, step.before⟩]
  | .closeAll => Session.closings world step.before.shared step.before
  | _ => []

end Step

/-- What the pool has opened in the steps. -/
def opened (world : World σ) (steps : List (Step σ)) : List (String × Connection) :=
  steps.filterMap (·.opened? world)

/-- The steps after the last in which all shared connections were closed. -/
def sinceEmptied (steps : List (Step σ)) : List (Step σ) := steps.rtakeWhile (!·.empties)

/-- What has been done, and the session that it has come to. -/
structure Course (σ : Type) where
  steps : List (Step σ)
  session : Session σ

def course (load : Loader σ) (world : World σ) (start : Session σ) (actions : List (Action σ)) :
    Course σ :=
  actions.foldl (fun course action =>
    let step := action.step load world course.session
    ⟨course.steps ++ [step], step.after⟩) ⟨[], start⟩

section Pool

/-- What the pool goes by: what is stored, and which wrappers are closed. -/
def pool (s : Session σ) : Dict String Connection × (Nat → Bool) := (s.shared, s.shut)

variable {α : Type}

theorem ask_keeps (question : σ → Except Refusal α × σ) : Keeps pool (ask question) := by
  intro s
  rw [ask_on]
  rfl

theorem search_keeps (found : Search σ α) : Keeps pool (search found) := by
  intro s
  rw [search_on]
  rfl

theorem askRaw_keeps (question : Raw → σ → Except Refusal α × σ) (fault : Fault) (c : Connection) :
    Keeps pool (do
      let some raw := (← get).rawOf c | throw fault
      ask (question raw)) := by
  refine .bind .get fun s => ?_
  cases s.rawOf c with
  | none => exact .throw _
  | some raw => exact ask_keeps _

theorem perform_keeps (world : World σ) (deed : Deed) (c : Connection) :
    Keeps pool (perform world deed c) :=
  askRaw_keeps (fun raw => world.perform raw deed) _ c

theorem execute_keeps (world : World σ) (sql : String) (c : Connection) :
    Keeps pool (execute world sql c) :=
  askRaw_keeps (fun raw => world.execute raw sql) _ c

theorem pool_updateWrapper {f : Wrapper → Wrapper} (kept : ∀ w, (f w).closed = w.closed)
    (s : Session σ) (i : Nat) : (s.updateWrapper i f).pool = s.pool := by
  refine Prod.ext rfl (funext fun j => ?_)
  by_cases same : i = j
  · subst same
    cases found : s.wrappers[i]? <;> simp [pool, shut, updateWrapper, found, kept]
  · simp [pool, shut, updateWrapper, same]

theorem setAutocommit_keeps (world : World σ) (value : Value) (c : Connection) :
    Keeps pool (setAutocommit world value c) := by
  cases c with
  | plain raw => exact ask_keeps _
  | wrapped i =>
    unfold setAutocommit
    refine .bind .get fun s => ?_
    cases s.wrappers[i]? with
    | none => exact .throw _
    | some w =>
      refine .bind (.modify fun s => ?noted) fun _ => .bind .get fun s => ?asked
      case noted =>
        refine pool_updateWrapper ?_ s i
        exact fun _ => rfl
      case asked =>
        rcases world.switch s.world w.raw with value | _ | _
        · exact ask_keeps _
        · exact ask_keeps _
        · cases value.excess? with
          | none => exact .modify fun _ => rfl
          | some e => exact .bind (.throw _) fun _ => .modify fun _ => rfl

theorem pool_opening (s : Session σ) (driver : Driver) (login : Login) (raw : Raw) :
    (opening s driver login raw).2.pool = s.pool := by
  cases driver with
  | provided => rfl
  | imported =>
    refine Prod.ext rfl (funext fun i => ?_)
    let wrapper : Wrapper := { raw, metadata := ⟨login.user, login.url⟩ }
    change (s.wrappers ++ [wrapper])[i]?.any (·.closed) = s.wrappers[i]?.any (·.closed)
    rcases Nat.lt_trichotomy i s.wrappers.length with inside | rfl | outside
    · rw [List.getElem?_append_left inside]
    · simp [wrapper]
    · have beyond : (s.wrappers ++ [wrapper]).length ≤ i := by
        rw [List.length_append]
        exact Nat.succ_le_of_lt outside
      rw [List.getElem?_eq_none beyond, List.getElem?_eq_none (Nat.le_of_lt outside)]

theorem connect_keeps (world : World σ) (driver : Driver) (login : Login) :
    Keeps pool (connect world driver login) := by
  intro s
  rw [connect_on]
  rcases world.connect driver login s.world with ⟨_ | raw, w⟩
  · rfl
  · exact pool_opening _ driver login raw

theorem acquire_shut (load : Loader σ) (world : World σ) (driverClass : String) (login : Login)
    (name : String) : Keeps shut (acquire load world driverClass login name) := by
  have weaken {β : Type} {work : Work σ β} (kept : Keeps pool work) : Keeps shut work :=
    fun s => congrArg Prod.snd (kept s)
  have reported (message : String) : Keeps (pool (σ := σ)) (report message [name]) := by
    intro s
    rw [report_on]
    rfl
  unfold acquire
  refine .bind .get fun s => ?_
  split
  · exact .bind (weaken (reported _)) fun _ => .pure _
  · refine .bind (weaken (reported _)) fun _ => .bind (weaken (search_keeps _)) fun driver => ?_
    refine .bind (weaken (connect_keeps world driver login)) fun c => ?_
    exact .bind (.modify fun _ => rfl) fun _ => .pure _

end Pool

/-- What a step comes to for the pool. -/
structure Step.Accounted (world : World σ) (step : Step σ) : Prop where
  shared : step.after.shared =
    if step.empties then [] else step.before.shared.update (step.opened? world).toList
  unusable : ∀ name c, step.opened? world = some (name, c) → step.before.usable? world name = none
  emptied : step.empties = true →
    (step.closings world).map (·.connection) = step.before.shared.map (·.2) ∧
      ∀ call ∈ step.closings world, call.answer world = .ok ()
  tally : Tally world step.before (step.closings world) step.after

/-- A step that opens, empties and closes nothing. -/
theorem Step.accounted_of_pool {world : World σ} {step : Step σ}
    (kept : step.after.pool = step.before.pool) (opened : step.opened? world = none)
    (empties : step.empties = false) (closings : step.closings world = []) :
    step.Accounted world := by
  obtain ⟨shared, shut⟩ := Prod.ext_iff.mp kept
  refine ⟨?_, by simp [opened], by simp [empties], closings ▸ .none shut⟩
  rw [empties, opened]
  exact shared

theorem acquire_accounted (load : Loader σ) (world : World σ) (driverClass : String) (login : Login)
    (name : String) (s : Session σ) :
    ((Action.acquire driverClass login name).step load world s).Accounted world := by
  have shut := acquire_shut load world driverClass login name s
  have acquired := acquire_acquired load world driverClass login name s
  simp only [Action.step, Action.work, on_map]
  generalize on (acquire load world driverClass login name) s = outcome at shut acquired
  obtain ⟨answer, after⟩ := outcome
  cases usable : s.usable? world name with
  | some c =>
    obtain ⟨stored, live⟩ := usable?_eq_some.mp usable
    obtain ⟨rfl, -, kept⟩ := acquired.reused c stored live
    have reused : Step.opened? world ⟨.acquire driverClass login name, s, .ok (some c), after⟩ =
        none := by simp [Step.opened?, usable]
    exact Step.accounted_of_pool (Prod.ext kept shut) reused rfl rfl
  | none =>
    cases answer with
    | error fault =>
      exact Step.accounted_of_pool (Prod.ext (acquired.failed fault rfl) shut) rfl rfl rfl
    | ok c =>
      have stored : after.shared = s.shared.put name c := by
        rcases acquired.opened (usable?_eq_none.mp usable) with ⟨_, -, failed⟩ | ⟨_, _, -, failed⟩ |
          ⟨_, _, _, -, done, -, stored⟩
        · simp at failed
        · simp at failed
        · rw [stored, Except.ok.inj done]
      refine ⟨?_, ?_, by simp [Step.empties], .none shut⟩
      · simp [Step.empties, Step.opened?, Except.map, usable, stored, Dict.update]
      · intro other d opened
        simp only [Step.opened?, Except.map, usable, Option.isNone_none, if_true, Option.some.injEq,
          Prod.mk.injEq] at opened
        rw [← opened.1, usable]

theorem closeAll_accounted (load : Loader σ) (world : World σ) (s : Session σ) :
    (Action.closeAll.step load world s).Accounted world := by
  have closedEach := closeEach_closedEach world s.shared s
  simp only [Action.step, Action.work, on_map, closeAll_on]
  generalize on (closeEach world s.shared) s = outcome at closedEach
  obtain ⟨answer, after⟩ := outcome
  obtain ⟨shared, -, done, tally⟩ := closedEach
  cases answer with
  | error fault => exact ⟨shared, by simp [Step.opened?], by simp [Step.empties, Except.map], tally⟩
  | ok => exact ⟨rfl, by simp [Step.opened?], fun _ => done rfl, ⟨tally.after, tally.before⟩⟩

theorem close_accounted (load : Loader σ) (world : World σ) (c : Connection) (s : Session σ) :
    ((Action.close c).step load world s).Accounted world := by
  let call : CloseCall σ := ⟨c, s⟩
  have same : ((Action.close c).step load world s).after = call.after world := by
    simp [Action.step, Action.work, on_map, call, CloseCall.after]
  refine ⟨?_, by simp [Step.opened?, Action.step], by simp [Step.empties, Action.step], ?_⟩
  · rw [same]
    exact call.shared_after
  · rw [same]
    exact .one rfl

theorem step_accounted (load : Loader σ) (world : World σ) (action : Action σ) (s : Session σ) :
    (action.step load world s).Accounted world := by
  have quiet {action : Action σ} (kept : Keeps pool (action.work load world))
      (opened : (action.step load world s).opened? world = none)
      (empties : (action.step load world s).empties = false)
      (closings : (action.step load world s).closings world = []) :
      (action.step load world s).Accounted world :=
    Step.accounted_of_pool (kept s) opened empties closings
  cases action with
  | acquire driverClass login name => exact acquire_accounted load world driverClass login name s
  | closeAll => exact closeAll_accounted load world s
  | close c => exact close_accounted load world c s
  | commit c => exact quiet (.map _ (perform_keeps world .commit c)) rfl rfl rfl
  | rollback c => exact quiet (.map _ (perform_keeps world .rollback c)) rfl rfl rfl
  | setAutocommit value c => exact quiet (.map _ (setAutocommit_keeps world value c)) rfl rfl rfl
  | execute sql c => exact quiet (.map _ (execute_keeps world sql c)) rfl rfl rfl
  | connect driver login => exact quiet (.map _ (connect_keeps world driver login)) rfl rfl rfl
  | loadDriver name => exact quiet (.map _ (search_keeps _)) rfl rfl rfl
  | registerDriver name driver => exact quiet (.map _ (.modify fun _ => rfl)) rfl rfl rfl
  | giveName label => exact quiet (.map _ (.modify fun _ => rfl)) rfl rfl rfl
  | elsewhere change => exact quiet (.map _ (.modify fun _ => rfl)) rfl rfl rfl

section Fate

variable {world : World σ}

/-- A connection that is shared under a name gives way to a new one, and reports to be closed. -/
structure Step.Replaces (world : World σ) (name : String) (c : Connection) (step : Step σ) :
    Prop where
  opens : ∃ d, step.opened? world = some (name, d)
  stored : step.before.shared.get? name = some c
  closed : step.before.closedOf world c = some true

/-- All shared connections are closed, and a call of the close of this one has come to its end. -/
structure Step.Disposes (world : World σ) (c : Connection) (step : Step σ) : Prop where
  empties : step.empties = true
  done : ∃ call ∈ step.closings world, call.connection = c ∧ call.answer world = .ok ()

/-- A connection that is stored stays, or gives way after it was closed, or is closed. -/
theorem Step.Accounted.keeps {step : Step σ} (accounted : step.Accounted world) {name : String}
    {c : Connection} (stored : step.before.shared.get? name = some c) :
    step.after.shared.get? name = some c ∨ step.Replaces world name c ∨ step.Disposes world c := by
  have shared := accounted.shared
  by_cases empties : step.empties = true
  · obtain ⟨same, done⟩ := accounted.emptied empties
    obtain ⟨entry, among, rfl⟩ := Dict.mem_of_get? stored
    have called : entry.2 ∈ (step.closings world).map (·.connection) :=
      same ▸ List.mem_map_of_mem among
    obtain ⟨call, made, wanted⟩ := List.mem_map.mp called
    exact .inr (.inr ⟨empties, call, made, wanted, done call made⟩)
  · rw [if_neg empties] at shared
    cases opens : step.opened? world with
    | none =>
      rw [opens] at shared
      exact .inl ((congrArg (·.get? name) shared).trans stored)
    | some entry =>
      obtain ⟨other, d⟩ := entry
      by_cases same : name = other
      · subst same
        have closed := usable?_eq_none.mp (accounted.unusable name d opens) c stored
        exact .inr (.inl ⟨⟨d, opens⟩, stored, closed⟩)
      · rw [opens] at shared
        refine .inl ?_
        rw [shared]
        exact (Dict.get?_put _ _ _ _).trans ((if_neg same).trans stored)

theorem Step.Accounted.stores {step : Step σ} (accounted : step.Accounted world) {name : String}
    {c : Connection} (opens : step.opened? world = some (name, c)) :
    step.after.shared.get? name = some c := by
  have shared := accounted.shared
  have empties : step.empties = false := by
    unfold opened? at opens
    unfold empties
    split at opens
    case h_1 acquires _ => simp [acquires]
    case h_2 => simp at opens
  rw [empties, opens] at shared
  rw [shared]
  exact (Dict.get?_put _ _ _ _).trans (if_pos rfl)

end Fate

section Run

variable {load : Loader σ} {world : World σ} {start : Session σ}

/-- What holds at the start, and after each step if it did before, holds after all steps. -/
theorem course_induction {motive : List (Step σ) → Session σ → Prop} (setOut : motive [] start)
    (goOn : ∀ steps step, step.Accounted world → motive steps step.before →
      motive (steps ++ [step]) step.after) (actions : List (Action σ)) :
    motive (course load world start actions).steps (course load world start actions).session := by
  -- a course is folded from the front, so it is the last action that comes off
  induction actions using List.reverseRecOn with
  | nil => exact setOut
  | append_singleton actions action ih =>
    have concat : course load world start (actions ++ [action]) =
        let step := action.step load world (course load world start actions).session
        ⟨(course load world start actions).steps ++ [step], step.after⟩ := by
      simp [course]
    rw [concat]
    exact goOn _ _ (step_accounted load world action _) ih

theorem opened_concat (world : World σ) (steps : List (Step σ)) (step : Step σ) :
    opened world (steps ++ [step]) = opened world steps ++ (step.opened? world).toList := by
  cases opens : step.opened? world <;> simp [opened, opens]

/-- In a pool that is new, what was opened last under each name is stored, as far back as steps can
be told to have emptied the pool. -/
theorem shared_since (forgets : Step σ → Bool)
    (told : ∀ step : Step σ, step.Accounted world → step.after.shared =
      if forgets step then [] else step.before.shared.update (step.opened? world).toList)
    (empty : start.shared = []) (actions : List (Action σ)) :
    (course load world start actions).session.shared =
      Dict.update []
        (opened world ((course load world start actions).steps.rtakeWhile (!forgets ·))) := by
  refine course_induction
    (motive := fun steps s =>
      s.shared = Dict.update [] (opened world (steps.rtakeWhile (!forgets ·))))
    empty (fun steps step accounted stored => ?_) actions
  rw [told step accounted, List.rtakeWhile_concat]
  by_cases forgotten : forgets step = true
  · simp [forgotten, opened, Dict.update]
  · simp only [forgotten, Bool.false_eq_true, if_false, Bool.not_false, if_true]
    rw [opened_concat, Dict.update_append, ← stored]

theorem shared_sinceEmptied (empty : start.shared = []) (actions : List (Action σ)) :
    (course load world start actions).session.shared =
      Dict.update [] (opened world (sinceEmptied (course load world start actions).steps)) :=
  shared_since Step.empties (fun _ accounted => accounted.shared) empty actions

end Run

end Stagewright.Session
