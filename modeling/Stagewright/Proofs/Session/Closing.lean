import Stagewright.Proofs.Session.Call

/-!
Closing connections: the calls of their closes, one after the other, and what these leave closed.
-/

namespace Stagewright.Session

open Work

variable {σ : Type}

/-- Whether the wrapper with an index is closed. -/
def shut (s : Session σ) (i : Nat) : Bool := s.wrappers[i]?.any (·.closed)

theorem closedOf_wrapped_iff {world : World σ} {s : Session σ} {i : Nat} :
    s.closedOf world (.wrapped i) = some true ↔ s.shut i = true := by
  rw [closedOf, shut]
  cases s.wrappers[i]? <;> simp

/-- A call of the close of a connection, and the session it is made in. -/
structure CloseCall (σ : Type) where
  connection : Connection
  before : Session σ

namespace CloseCall

def answer (world : World σ) (call : CloseCall σ) : Except Fault Unit :=
  (on (close world call.connection) call.before).1

def after (world : World σ) (call : CloseCall σ) : Session σ :=
  (on (close world call.connection) call.before).2

/-- What the call asks of drivers and connections. -/
def asked (world : World σ) (call : CloseCall σ) : List Call :=
  callsOf (close world.watched call.connection) call.before

/-- The call is one of a wrapper, and the connection in the wrapper is closed for it. -/
def Closes (world : World σ) (call : CloseCall σ) (i : Nat) : Prop :=
  call.connection = .wrapped i ∧ ∃ raw, call.before.rawOf (.wrapped i) = some raw ∧
    .perform raw .close (.ok ()) ∈ call.asked world

variable {world : World σ} {call : CloseCall σ} {i : Nat}

theorem shared_after : (call.after world).shared = call.before.shared := by
  obtain ⟨c, s⟩ := call
  cases c with
  | plain raw => rw [after, close_plain_on]
  | wrapped j =>
    rw [after, close_wrapped_on]
    cases s.wrappers[j]? with
    | none => rfl
    | some w =>
      by_cases closed : w.closed = true
      · simp [closed]
      · simp only [closed, Bool.false_eq_true, if_false]
        rcases world.perform w.raw .close s.world with ⟨_ | _, _⟩ <;> rfl

/-- A wrapper is closed by a call if the driver closes the connection in it, and by no other. -/
theorem shut_after :
    (call.after world).shut i = true ↔ call.before.shut i = true ∨ call.Closes world i := by
  obtain ⟨c, s⟩ := call
  rw [Closes, asked, callsOf_close, after]
  cases c with
  | plain raw => simp [close_plain_on, shut]
  | wrapped j =>
    rw [close_wrapped_on, closeCalls, rawOf, shut, shut]
    cases found : s.wrappers[j]? with
    | none => simp
    | some w =>
      by_cases closed : w.closed = true
      · simp [closed]
      · simp only [closed, Bool.false_eq_true, if_false]
        rcases world.perform w.raw .close s.world with ⟨reason | done, after⟩
        · simp
        · by_cases same : j = i
          · subst same
            simp [updateWrapper, found]
          · simp [updateWrapper, same]

end CloseCall

/-- Calls of closes that took one session to another: which wrappers are closed, before each of them
and in the end, is told by the calls that came before. -/
structure Tally (world : World σ) (s : Session σ) (calls : List (CloseCall σ)) (s' : Session σ) :
    Prop where
  after : ∀ i, s'.shut i = true ↔ s.shut i = true ∨ ∃ call ∈ calls, call.Closes world i
  before : ∀ early call late, calls = early ++ call :: late → ∀ i,
    call.before.shut i = true ↔ s.shut i = true ∨ ∃ other ∈ early, other.Closes world i

namespace Tally

variable {world : World σ} {s s' s'' : Session σ}

theorem none (same : s'.shut = s.shut) : Tally world s [] s' := by
  refine ⟨fun i => by simp [same], fun early call late split => ?_⟩
  simp at split

theorem one {call : CloseCall σ} (same : call.before.shut = s.shut) :
    Tally world s [call] (call.after world) := by
  refine ⟨fun i => ?_, fun early other late split i => ?_⟩
  · simp [CloseCall.shut_after, same]
  · obtain ⟨rfl, rfl, rfl⟩ : early = [] ∧ call = other ∧ late = [] := by
      rcases List.singleton_eq_append_iff.mp split with ⟨rfl, rest⟩ | ⟨-, rest⟩
      · simpa [eq_comm] using rest
      · simp at rest
    simp [same]

theorem append {first second : List (CloseCall σ)} (earlier : Tally world s first s')
    (later : Tally world s' second s'') : Tally world s (first ++ second) s'' := by
  refine ⟨fun i => ?_, fun early call late split i => ?_⟩
  · rw [later.after, earlier.after, or_assoc]
    simp [or_and_right, exists_or]
  · -- the call is in the second list, or it is in the first and the second comes late
    rcases List.append_eq_append_iff.mp split with ⟨more, rfl, rest⟩ | ⟨more, rfl, rest⟩
    · rw [later.before more call late rest, earlier.after, or_assoc]
      simp [or_and_right, exists_or]
    · cases more with
      | nil =>
        rw [later.before [] call late rest.symm, earlier.after]
        simp
      | cons head more =>
        obtain ⟨rfl, -⟩ := List.cons_eq_cons.mp (rest.trans (List.cons_append ..))
        exact earlier.before early call more rfl i

end Tally

/-- The session with a note that the connection shared under a name is about to be closed. -/
def noting (s : Session σ) (name : String) : Session σ :=
  { s with records := s.records ++
      [Log.debug .session ("Closing shared connection '" ++ name ++ "'")] }

theorem closeEach_cons_on (world : World σ) (name : String) (c : Connection)
    (rest : List (String × Connection)) (s : Session σ) :
    on (closeEach world ((name, c) :: rest)) s =
      match on (close world c) (s.noting name) with
      | (.ok (), after) => on (closeEach world rest) after
      | (.error fault, after) => (.error fault, after) := by
  rw [closeEach, on_bind, on_modify]
  change on (close world c >>= fun _ => closeEach world rest) (s.noting name) = _
  rw [on_bind]
  rcases on (close world c) (s.noting name) with ⟨_ | _, _⟩ <;> rfl

/-- The calls that closing connections with their names consists of. -/
def closings (world : World σ) : List (String × Connection) → Session σ → List (CloseCall σ)
  | [], _ => []
  | (name, c) :: rest, s =>
    let call : CloseCall σ := ⟨c, s.noting name⟩
    call :: match call.answer world with
      | .ok () => closings world rest (call.after world)
      | .error _ => []

section CloseEach

variable {world : World σ}

/-- What closing connections with their names comes to, in the calls that it consists of. -/
structure ClosedEach (world : World σ) (entries : List (String × Connection)) (s : Session σ)
    (answer : Except Fault Unit) (after : Session σ) (calls : List (CloseCall σ)) : Prop where
  shared : after.shared = s.shared
  during : ∀ call ∈ calls, call.before.shared = s.shared
  done : answer = .ok () →
    calls.map (·.connection) = entries.map (·.2) ∧ ∀ call ∈ calls, call.answer world = .ok ()
  tally : Tally world s calls after

theorem closeEach_closedEach (world : World σ) (entries : List (String × Connection))
    (s : Session σ) :
    ClosedEach world entries s (on (closeEach world entries) s).1 (on (closeEach world entries) s).2
      (closings world entries s) := by
  induction entries generalizing s with
  | nil => exact ⟨rfl, by simp [closings], by simp [closings], .none rfl⟩
  | cons entry rest ih =>
    obtain ⟨name, c⟩ := entry
    let call : CloseCall σ := ⟨c, s.noting name⟩
    have first : Tally world s [call] (call.after world) := .one rfl
    have kept : (call.after world).shared = s.shared := call.shared_after
    have cons : closings world ((name, c) :: rest) s =
        call :: match call.answer world with
          | .ok () => closings world rest (call.after world)
          | .error _ => [] := rfl
    have run : on (close world c) (s.noting name) = (call.answer world, call.after world) := rfl
    rw [closeEach_cons_on, run, cons]
    cases answered : call.answer world with
    | error fault => exact ⟨kept, by simp [call, noting], by simp, first⟩
    | ok _ =>
      obtain ⟨shared, during, done, tally⟩ := ih (call.after world)
      refine ⟨shared.trans kept, ?_, fun closed => ?_, first.append tally⟩
      · exact List.forall_mem_cons.mpr ⟨rfl, fun later among => (during later among).trans kept⟩
      · obtain ⟨same, answers⟩ := done closed
        exact ⟨congrArg (c :: ·) same, List.forall_mem_cons.mpr ⟨answered, answers⟩⟩

/-- Closing all shared connections forgets them, unless one of them refuses. -/
theorem closeAll_on (world : World σ) (s : Session σ) :
    on (closeAll world) s =
      match on (closeEach world s.shared) s with
      | (.ok (), after) => (.ok (), { after with shared := [] })
      | (.error fault, after) => (.error fault, after) := by
  rw [closeAll, on_bind, on_get]
  change on (closeEach world s.shared >>= fun _ => modify fun s => { s with shared := [] }) s = _
  rw [on_bind]
  rcases on (closeEach world s.shared) s with ⟨_ | _, _⟩ <;> rfl

end CloseEach

end Stagewright.Session
