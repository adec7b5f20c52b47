import Stagewright.Proofs.Session.Call
import Stagewright.Proofs.Value.Dict

/-!
What getting a shared connection comes to, in any session.
-/

namespace Stagewright.Session

open Work

variable {σ α : Type}

/-- The connection that can be used under a name: the one that is stored there, unless it reports to
be closed. -/
def usable? (world : World σ) (s : Session σ) (name : String) : Option Connection :=
  (s.shared.get? name).filter fun c => !(s.closedOf world c).getD false

theorem usable?_eq_some {world : World σ} {s : Session σ} {name : String} {c : Connection} :
    s.usable? world name = some c ↔
      s.shared.get? name = some c ∧ s.closedOf world c ≠ some true := by
  rw [usable?, Option.filter_eq_some_iff]
  refine and_congr_right fun _ => ?_
  cases s.closedOf world c <;> simp

/-- Nothing can be used under a name if all that is stored there reports to be closed. -/
theorem usable?_eq_none {world : World σ} {s : Session σ} {name : String} :
    s.usable? world name = none ↔
      ∀ c, s.shared.get? name = some c → s.closedOf world c = some true := by
  rw [usable?, Option.filter_eq_none_iff]
  refine forall₂_congr fun c _ => ?_
  cases s.closedOf world c <;> simp

theorem usable?_beside (world : World σ) (s : Session σ) (calls : List Call) (name : String) :
    (s.beside calls).usable? world.watched name = s.usable? world name := by
  simp only [usable?, closedOf_beside]
  rfl

section Acquire

variable {load : Loader σ} {world : World σ} {driverClass : String} {login : Login} {name : String}
  {s : Session σ}

theorem acquire_usable {c : Connection} (usable : s.usable? world name = some c) :
    on (acquire load world driverClass login name) s =
      (.ok c, s.reporting "Reusing the shared connection '%s'." [name]) := by
  rw [usable?] at usable
  simp only [acquire, on_bind, on_get, usable, report_on, on_pure]

/-- The session in which the pool sets out to open a connection. -/
def setOut (s : Session σ) (name : String) : Session σ :=
  s.reporting "Opening the shared connection '%s'." [name]

section Opening

variable {drivers : Dict String Driver} {w w' : σ} (unusable : s.usable? world name = none)

include unusable

theorem acquire_notLoaded {fault : Fault}
    (loading : Search.on (load driverClass) s.drivers s.world = (.error fault, drivers, w)) :
    on (acquire load world driverClass login name) s =
      (.error fault, { s.setOut name with drivers, world := w }) := by
  rw [usable?] at unusable
  simp only [acquire, on_bind, on_get, unusable, report_on, search_on, reporting_drivers,
    reporting_world, loading]
  rfl

variable {driver : Driver}
  (loading : Search.on (load driverClass) s.drivers s.world = (.ok driver, drivers, w))

include loading

theorem acquire_refused {reason : Refusal}
    (connecting : world.connect driver login w = (.error reason, w')) :
    on (acquire load world driverClass login name) s =
      (.error (.refused reason), { s.setOut name with drivers, world := w' }) := by
  rw [usable?] at unusable
  simp only [acquire, on_bind, on_get, unusable, report_on, search_on, reporting_drivers,
    reporting_world, loading, connect_on, connecting]
  rfl

theorem acquire_opened {raw : Raw} (connecting : world.connect driver login w = (.ok raw, w')) :
    on (acquire load world driverClass login name) s =
      let (c, after) := opening { s.setOut name with drivers, world := w' } driver login raw
      (.ok c, { after with shared := after.shared.put name c }) := by
  rw [usable?] at unusable
  simp only [acquire, on_bind, on_get, unusable, report_on, search_on, reporting_drivers,
    reporting_world, loading, connect_on, connecting, on_modify, on_pure]
  rfl

end Opening

/-- A driver that has opened a connection is what answers for it. -/
theorem rawOf_opening (s : Session σ) (driver : Driver) (login : Login) (raw : Raw) :
    (opening s driver login raw).2.rawOf (opening s driver login raw).1 = some raw := by
  cases driver <;> simp [opening, rawOf]

theorem shared_opening (s : Session σ) (driver : Driver) (login : Login) (raw : Raw) :
    (opening s driver login raw).2.shared = s.shared := by
  cases driver <;> rfl

end Acquire

/-- What getting the connection shared under a name comes to. What is stored there and does not
report to be closed is reused, and nobody is asked. Otherwise one driver is loaded and connects
once, and the connection it opens is stored; if one of them refuses, nothing is. -/
structure Acquired (world : World σ) (driverClass : String) (login : Login) (name : String)
    (s : Session σ) (answer : Except Fault Connection) (after : Session σ) (calls : List Call) :
    Prop where
  reused : ∀ c, s.shared.get? name = some c → s.closedOf world c ≠ some true →
    answer = .ok c ∧ calls = [] ∧ after.shared = s.shared
  opened : (∀ c, s.shared.get? name = some c → s.closedOf world c = some true) →
    (∃ fault, calls = [.load driverClass (.error fault)] ∧ answer = .error fault) ∨
    (∃ driver reason,
      calls = [.load driverClass (.ok driver), .connect driver login (.error reason)] ∧
        answer = .error (.refused reason)) ∨
    ∃ driver raw c,
      calls = [.load driverClass (.ok driver), .connect driver login (.ok raw)] ∧
        answer = .ok c ∧ after.rawOf c = some raw ∧ after.shared = s.shared.put name c
  failed : ∀ fault, answer = .error fault → after.shared = s.shared
  others : ∀ other, other ≠ name → after.shared.get? other = s.shared.get? other

theorem acquire_acquired (load : Loader σ) (world : World σ) (driverClass : String) (login : Login)
    (name : String) (s : Session σ) :
    Acquired world driverClass login name s
      (on (acquire load world driverClass login name) s).1
      (on (acquire load world driverClass login name) s).2
      (callsOf (acquire load.watched world.watched driverClass login name) s) := by
  cases usable : s.usable? world name with
  | some c =>
    have watched := (usable?_beside world s [] name).trans usable
    rw [callsOf, acquire_usable usable, acquire_usable watched]
    obtain ⟨stored, live⟩ := usable?_eq_some.mp usable
    refine ⟨?_, ?_, by simp, fun _ _ => rfl⟩
    · intro other found _
      obtain rfl := Option.some.inj (stored.symm.trans found)
      exact ⟨rfl, rfl, rfl⟩
    · intro closed
      exact absurd (closed c stored) live
  | none =>
    have watched := (usable?_beside world s [] name).trans usable
    have closed := usable?_eq_none.mp usable
    -- nothing that is stored can be used, so no case that follows is one of reuse
    have notReused : ∀ {answer : Except Fault Connection} {calls : List Call} {p : Prop},
        ∀ c, s.shared.get? name = some c → s.closedOf world c ≠ some true →
          answer = .ok c ∧ calls = [] ∧ p :=
      fun c stored live => absurd (closed c stored) live
    rw [callsOf]
    obtain ⟨⟨answer, drivers, w⟩, loading⟩ :
        ∃ found, Search.on (load driverClass) s.drivers s.world = found := ⟨_, rfl⟩
    have watchedLoading := watched_on loading []
    cases answer with
    | error fault =>
      rw [acquire_notLoaded usable loading, acquire_notLoaded watched watchedLoading]
      exact ⟨notReused, fun _ => .inl ⟨fault, rfl, rfl⟩, fun _ _ => rfl, fun _ _ => rfl⟩
    | ok driver =>
      obtain ⟨⟨answer, w'⟩, connecting⟩ : ∃ made, world.connect driver login w = made := ⟨_, rfl⟩
      have watchedConnecting := watched_connect connecting [.load driverClass (.ok driver)]
      cases answer with
      | error reason =>
        rw [acquire_refused usable loading connecting,
          acquire_refused watched watchedLoading watchedConnecting]
        exact ⟨notReused, fun _ => .inr (.inl ⟨driver, reason, rfl, rfl⟩), fun _ _ => rfl,
          fun _ _ => rfl⟩
      | ok raw =>
        rw [acquire_opened usable loading connecting,
          acquire_opened watched watchedLoading watchedConnecting]
        let opened := opening { s.setOut name with drivers, world := w' } driver login raw
        have stored : opened.2.shared.put name opened.1 = s.shared.put name opened.1 :=
          congrArg (·.put name opened.1) (shared_opening _ driver login raw)
        refine ⟨notReused, fun _ => .inr (.inr ⟨driver, raw, opened.1, ?_, rfl, ?_, stored⟩),
          by simp, fun other different => ?_⟩
        · cases driver <;> rfl
        · exact rawOf_opening _ driver login raw
        · change (opened.2.shared.put name opened.1).get? other = _
          rw [stored, Dict.get?_put, if_neg different]

end Stagewright.Session
