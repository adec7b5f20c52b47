import Stagewright.Session.Basic

/-!
What work does to a session. Each operation comes to an answer and a session, and what it was made
of is not looked at again.
-/

namespace Stagewright.Session

variable {σ α β : Type}

/-- The answer to work in a session, and the session after it. -/
def Work.on (work : Work σ α) (session : Session σ) : Except Fault α × Session σ :=
  (ExceptT.run work).run session

namespace Work

@[simp] theorem on_pure (a : α) (s : Session σ) : on (pure a) s = (.ok a, s) := rfl

@[simp] theorem on_get (s : Session σ) : on get s = (.ok s, s) := rfl

@[simp] theorem on_set (s s' : Session σ) : on (set s') s = (.ok (), s') := rfl

@[simp] theorem on_modify (f : Session σ → Session σ) (s : Session σ) :
    on (modify f) s = (.ok (), f s) := rfl

theorem on_bind (work : Work σ α) (next : α → Work σ β) (s : Session σ) :
    on (work >>= next) s =
      match on work s with
      | (.ok a, s') => on (next a) s'
      | (.error fault, s') => (.error fault, s') := by
  change (match on work s with
    | (answer, s') => StateT.run (ExceptT.bindCont next answer) s') = _
  rcases on work s with ⟨_ | _, _⟩ <;> rfl

theorem on_map (f : α → β) (work : Work σ α) (s : Session σ) :
    on (f <$> work) s = ((on work s).1.map f, (on work s).2) := by
  rw [← bind_pure_comp, on_bind]
  rcases on work s with ⟨_ | _, _⟩ <;> rfl

/-- Work that leaves what is seen of a session as it is. -/
def Keeps (view : Session σ → β) (work : Work σ α) : Prop := ∀ s, view (on work s).2 = view s

namespace Keeps

variable {γ : Type} {view : Session σ → γ}

theorem pure (a : α) : Keeps view (pure a) := fun _ => rfl

theorem throw (fault : Fault) : Keeps view (throw fault : Work σ α) := fun _ => rfl

theorem get : Keeps view (get : Work σ (Session σ)) := fun _ => rfl

theorem modify {f : Session σ → Session σ} (kept : ∀ s, view (f s) = view s) :
    Keeps view (modify f : Work σ Unit) := kept

theorem bind {work : Work σ α} {next : α → Work σ β} (first : Keeps view work)
    (rest : ∀ a, Keeps view (next a)) : Keeps view (work >>= next) := by
  intro s
  have kept := first s
  rw [on_bind]
  rcases came : on work s with ⟨_ | a, s'⟩ <;> rw [came] at kept
  · exact kept
  · exact (rest a s').trans kept

theorem map (f : α → β) {work : Work σ α} (kept : Keeps view work) : Keeps view (f <$> work) := by
  intro s
  rw [on_map]
  exact kept s

end Keeps

end Work

open Work

/-- Asking changes the world and nothing else. -/
theorem ask_on (question : σ → Except Refusal α × σ) (s : Session σ) :
    on (ask question) s =
      ((question s.world).1.mapError .refused, { s with world := (question s.world).2 }) := by
  simp only [ask, on_bind, on_get, on_set]
  cases (question s.world).1 <;> rfl

/-- The answer to a search, and the drivers and the world after it. -/
def Search.on (found : Search σ α) (drivers : Dict String Driver) (world : σ) :
    Except Fault α × Dict String Driver × σ :=
  (ExceptT.run found).run (drivers, world)

/-- A search changes the drivers and the world and nothing else. -/
theorem search_on (found : Search σ α) (s : Session σ) :
    on (search found) s =
      match Search.on found s.drivers s.world with
      | (answer, drivers, world) => (answer, { s with drivers, world }) := by
  simp only [search, on_bind, on_get, Search.on]
  rcases (ExceptT.run found).run (s.drivers, s.world) with ⟨_ | _, _, _⟩ <;> rfl

/-- The session with a message of the pool in the log of the job, if there is one. -/
def reporting (s : Session σ) (message : String) (args : List String) : Session σ :=
  { s with reports := s.reports ++
      (s.label.map fun label => ⟨label ++ " - " ++ message, args⟩).toList }

@[simp] theorem reporting_world (s : Session σ) (message : String) (args : List String) :
    (s.reporting message args).world = s.world := rfl

@[simp] theorem reporting_drivers (s : Session σ) (message : String) (args : List String) :
    (s.reporting message args).drivers = s.drivers := rfl

theorem report_on (message : String) (args : List String) (s : Session σ) :
    on (report message args) s = (.ok (), s.reporting message args) := by
  rw [report, on_modify, reporting]
  cases s with
  | mk world wrappers drivers shared label => cases label <;> simp

/-- The connection that a driver has opened, in the session that knows it. -/
def opening (s : Session σ) (driver : Driver) (login : Login) (raw : Raw) :
    Connection × Session σ :=
  match driver with
  | .provided _ => (.plain raw, s)
  | .imported _ => (.wrapped s.wrappers.length,
      { s with wrappers := s.wrappers ++ [{ raw, metadata := ⟨login.user, login.url⟩ }] })

theorem connect_on (world : World σ) (driver : Driver) (login : Login) (s : Session σ) :
    on (connect world driver login) s =
      match world.connect driver login s.world with
      | (.error reason, w) => (.error (.refused reason), { s with world := w })
      | (.ok raw, w) =>
        let (connection, after) := opening { s with world := w } driver login raw
        (.ok connection, after) := by
  simp only [connect, on_bind, ask_on]
  rcases world.connect driver login s.world with ⟨_ | raw, w⟩
  · rfl
  · cases driver <;> rfl

theorem close_plain_on (world : World σ) (raw : Raw) (s : Session σ) :
    on (close world (.plain raw)) s =
      ((world.perform raw .close s.world).1.mapError .refused,
        { s with world := (world.perform raw .close s.world).2 }) :=
  ask_on _ s

theorem close_wrapped_on (world : World σ) (i : Nat) (s : Session σ) :
    on (close world (.wrapped i)) s =
      match s.wrappers[i]? with
      | none => (.error (.noAttribute "raw"), s)
      | some w =>
        if w.closed then (.ok (), s)
        else
          match world.perform w.raw .close s.world with
          | (.error reason, world) => (.error (.refused reason), { s with world })
          | (.ok (), world) =>
            (.ok (), updateWrapper { s with world } i fun w => { w with closed := true }) := by
  simp only [close, on_bind, on_get]
  cases s.wrappers[i]? with
  | none => rfl
  | some w =>
    by_cases closed : w.closed = true
    · simp only [closed, if_pos]
      rfl
    · simp only [closed, Bool.false_eq_true, if_false, on_bind, ask_on]
      rcases world.perform w.raw .close s.world with ⟨_ | _, _⟩ <;> rfl

end Stagewright.Session
