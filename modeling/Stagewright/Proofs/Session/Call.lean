import Stagewright.Proofs.Session.Work

/-!
What a session asks of drivers and connections. A world can be watched: it answers as it did, and
keeps a list of what it was asked. Since work goes on in any world, it goes on in a watched one, and
the list shows which calls it is made of.
-/

namespace Stagewright.Session

open Work

variable {σ α : Type}

/-- A call out of a session, and how it was answered. -/
inductive Call where
  | load (driverClass : String) (answer : Except Fault Driver)
  | connect (driver : Driver) (login : Login) (answer : Except Refusal Raw)
  | perform (raw : Raw) (deed : Deed) (answer : Except Refusal Unit)
  | execute (raw : Raw) (sql : String) (answer : Except Refusal String)

/-- Asks, and adds the call to a list. -/
def watch (call : α → Call) (question : σ → α × σ) : σ × List Call → α × σ × List Call :=
  fun (s, calls) => ((question s).1, (question s).2, calls ++ [call (question s).1])

def World.watched (world : World σ) : World (σ × List Call) where
  modules := world.modules
  standard := world.standard
  decrypt := world.decrypt
  connect driver login := watch (.connect driver login) (world.connect driver login)
  perform raw deed := watch (.perform raw deed) (world.perform raw deed)
  execute raw sql := watch (.execute raw sql) (world.execute raw sql)
  switch s := world.switch s.1
  closed s := world.closed s.1
  metadata s := world.metadata s.1
  field s := world.field s.1

def Loader.watched (load : Loader σ) : Loader (σ × List Call) := fun name =>
  ExceptT.mk fun (drivers, world, calls) =>
    let (answer, drivers, world) := Search.on (load name) drivers world
    (answer, drivers, world, calls ++ [.load name answer])

theorem watched_connect {world : World σ} {driver : Driver} {login : Login} {w w' : σ}
    {answer : Except Refusal Raw} (made : world.connect driver login w = (answer, w'))
    (calls : List Call) : world.watched.connect driver login (w, calls) =
      (answer, w', calls ++ [.connect driver login answer]) := by
  change ((world.connect driver login w).1, (world.connect driver login w).2,
    calls ++ [Call.connect driver login (world.connect driver login w).1]) = _
  rw [made]

theorem watched_on {load : Loader σ} {name : String} {drivers after : Dict String Driver}
    {world world' : σ} {answer : Except Fault Driver}
    (found : Search.on (load name) drivers world = (answer, after, world')) (calls : List Call) :
    Search.on (load.watched name) drivers (world, calls) =
      (answer, after, world', calls ++ [.load name answer]) := by
  change (match Search.on (load name) drivers world with
    | (answer, drivers, world) => (answer, drivers, world, calls ++ [Call.load name answer])) = _
  rw [found]

/-- The session with a list of calls beside its world. -/
def beside (s : Session σ) (calls : List Call) : Session (σ × List Call) :=
  { s with world := (s.world, calls) }

/-- The calls that work makes when it is done in a watched world. -/
def callsOf (work : Work (σ × List Call) α) (s : Session σ) : List Call :=
  (on work (s.beside [])).2.world.2

theorem closedOf_beside (world : World σ) (s : Session σ) (calls : List Call) (c : Connection) :
    (s.beside calls).closedOf world.watched c = s.closedOf world c := by
  cases c <;> rfl

/-- The calls that closing a connection makes. A provided one is closed by its driver every time,
one in a wrapper only as long as the wrapper is open. -/
def closeCalls (world : World σ) (s : Session σ) : Connection → List Call
  | .plain raw => [.perform raw .close (world.perform raw .close s.world).1]
  | .wrapped i =>
    match s.wrappers[i]? with
    | none => []
    | some w =>
      if w.closed then [] else [.perform w.raw .close (world.perform w.raw .close s.world).1]

/-- Closing a connection goes the same way in a watched world, and makes those calls. -/
theorem close_beside (world : World σ) (c : Connection) (s : Session σ) (calls : List Call) :
    on (close world.watched c) (s.beside calls) =
      ((on (close world c) s).1,
        (on (close world c) s).2.beside (calls ++ closeCalls world s c)) := by
  cases c with
  | plain raw =>
    rw [close_plain_on, close_plain_on]
    rfl
  | wrapped i =>
    have wrapper : (s.beside calls).wrappers[i]? = s.wrappers[i]? := rfl
    rw [close_wrapped_on, close_wrapped_on, wrapper, closeCalls]
    cases s.wrappers[i]? with
    | none => simp
    | some w =>
      by_cases closed : w.closed = true
      · simp [closed]
      · have asked : world.watched.perform w.raw .close (s.beside calls).world =
            ((world.perform w.raw .close s.world).1, (world.perform w.raw .close s.world).2,
              calls ++ [.perform w.raw .close (world.perform w.raw .close s.world).1]) := rfl
        simp only [closed, Bool.false_eq_true, if_false, asked]
        rcases world.perform w.raw .close s.world with ⟨_ | _, _⟩ <;> rfl

theorem callsOf_close (world : World σ) (c : Connection) (s : Session σ) :
    callsOf (close world.watched c) s = closeCalls world s c := by
  rw [callsOf, close_beside]
  rfl

end Stagewright.Session
