import Stagewright.Proofs.Session.Course
import Stagewright.Session.StandIn

/-!
One live connection is shared under each name: those that the pool opened before it report to be
closed.
-/

namespace Stagewright.Session

open Work

variable {σ : Type} {load : Loader σ} {world : World σ} {start : Session σ}

/-- Connections that report to be closed keep to it. -/
def Steady (world : World σ) (steps : List (Step σ)) : Prop :=
  ∀ step ∈ steps, ∀ raw, world.closed step.before.world raw = some true →
    world.closed step.after.world raw = some true

/-- Wrappers stay closed, and so do connections that keep to what they report. -/
theorem Step.Accounted.stays_closed {step : Step σ} (accounted : step.Accounted world)
    (steady : Steady world [step]) {c : Connection}
    (closed : step.before.closedOf world c = some true) :
    step.after.closedOf world c = some true := by
  cases c with
  | plain raw => exact steady step (List.mem_singleton_self step) raw closed
  | wrapped i =>
    rw [closedOf_wrapped_iff] at closed ⊢
    exact (accounted.tally.after i).mpr (.inl closed)

/-- What was opened since the pool was emptied is stored or reports to be closed. -/
theorem stored_or_closed (actions : List (Action σ))
    (steady : Steady world (course load world start actions).steps) (name : String) (c : Connection)
    (opening : (name, c) ∈ opened world (sinceEmptied (course load world start actions).steps)) :
    (course load world start actions).session.shared.get? name = some c ∨
      (course load world start actions).session.closedOf world c = some true := by
  revert steady name c
  refine course_induction
    (motive := fun steps s => Steady world steps → ∀ name c,
      (name, c) ∈ opened world (sinceEmptied steps) →
        s.shared.get? name = some c ∨ s.closedOf world c = some true)
    (by simp [sinceEmptied, opened]) (fun steps step accounted ih steady name c opening => ?_)
    actions
  obtain ⟨earlier, now⟩ : Steady world steps ∧ Steady world [step] :=
    List.forall_mem_append.mp steady
  rw [sinceEmptied, List.rtakeWhile_concat] at opening
  by_cases empties : step.empties = true
  · simp [empties, opened] at opening
  · simp only [empties, Bool.not_false, if_true, opened_concat, List.mem_append,
      Option.mem_toList] at opening
    rcases opening with before | newest
    · rcases ih earlier name c before with stored | closed
      · rcases accounted.keeps stored with still | replaced | disposed
        · exact .inl still
        · exact .inr (accounted.stays_closed now replaced.closed)
        · exact absurd disposed.empties empties
      · exact .inr (accounted.stays_closed now closed)
    · exact .inl (accounted.stores newest)

/-- Whatever is done with a pool that is new, the connection shared under a name is the one that was
opened last under it since the pool was emptied. It is reused exactly as long as it does not report
to be closed; otherwise one driver is loaded and connects once, and no other name is touched. All
that was opened under the name before reports to be closed, if connections keep to that. -/
theorem course_shares_one (load : Loader σ) (world : World σ) (start : Session σ)
    (actions : List (Action σ)) (empty : start.shared = []) :
    let steps := (course load world start actions).steps
    let s := (course load world start actions).session
    (∀ driverClass login name, Acquired world driverClass login name s
      (on (acquire load world driverClass login name) s).1
      (on (acquire load world driverClass login name) s).2
      (callsOf (acquire load.watched world.watched driverClass login name) s)) ∧
    (∀ name, s.shared.get? name = Dict.get? (opened world (sinceEmptied steps)).reverse name) ∧
    (Steady world steps → ∀ name c, (name, c) ∈ opened world (sinceEmptied steps) →
      s.shared.get? name = some c ∨ s.closedOf world c = some true) := by
  intro steps s
  refine ⟨fun driverClass login name => ?_, fun name => ?_, fun steady name c opening => ?_⟩
  · exact acquire_acquired load world driverClass login name s
  · have stored : s.shared = Dict.update [] (opened world (sinceEmptied steps)) :=
      shared_sinceEmptied empty actions
    rw [stored, Dict.get?_update_nil]
  · exact stored_or_closed actions steady name c opening

namespace StandIn

/-- A world with a standard driver whose connections tell whether they are closed. -/
def telling : World State := StandIn.world [] (some (.provided 0)) none

def untouched : Session State := { world := { provided := [("db", { telling := true })] } }

/-- A connection is shared, closed by whoever has got it, and asked for again. -/
def reopening : List (Action State) :=
  [.acquire "" ⟨none, none, none⟩ "main", .close (.plain 0), .acquire "" ⟨none, none, none⟩ "main"]

theorem steady_reopening :
    Steady telling (course (findDriver telling) telling untouched reopening).steps := by
  intro step among raw closed
  have few : ∀ step ∈ (course (findDriver telling) telling untouched reopening).steps,
      step.before.world.conns.length ≤ 2 := by decide +kernel
  have kept : ∀ step ∈ (course (findDriver telling) telling untouched reopening).steps,
      ∀ raw < 2, telling.closed step.before.world raw = some true →
        telling.closed step.after.world raw = some true := by decide +kernel
  have known : raw < step.before.world.conns.length := by
    by_contra outside
    have missing := List.getElem?_eq_none (Nat.le_of_not_lt outside)
    simp [telling, StandIn.world, telling?, missing] at closed
  exact kept step among raw (Nat.lt_of_lt_of_le known (few step among)) closed

end StandIn

/-- The second connection takes the place of the first, which is closed. -/
theorem reopened_shares_one :
    let run := course (findDriver StandIn.telling) StandIn.telling StandIn.untouched
      StandIn.reopening
    run.session.shared.get? "main" = some (.plain 1) ∧
      run.session.closedOf StandIn.telling (.plain 0) = some true := by
  intro run
  obtain ⟨-, stored, closed⟩ := course_shares_one (findDriver StandIn.telling) StandIn.telling
    StandIn.untouched StandIn.reopening rfl
  have second : run.session.shared.get? "main" = some (.plain 1) := by
    rw [stored]
    decide +kernel
  refine ⟨second, (closed StandIn.steady_reopening "main" (.plain 0) ?_).resolve_left ?_⟩
  · decide +kernel
  · rw [second]
    decide

end Stagewright.Session
