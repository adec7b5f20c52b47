import Stagewright.Proofs.Session.Work

/-!
Switching a connection, and what it then reads as. A wrapper notes a value before it asks the
driver, so a value that is refused is read back all the same, unless the connection holds its value
itself.
-/

namespace Stagewright.Session

open Work

variable {σ : Type}

/-- Whether a connection holds the value that it is switched to. -/
def Switch.holds : Switch → Bool
  | .attribute _ => true
  | .method | .missing => false

/-- A connection that goes on as it is: it holds what has been assigned and not what it has refused,
and is switched by a method for good if it has one. -/
structure Reliable (world : World σ) (raw : Raw) : Prop where
  stores : ∀ {s s' held value}, world.switch s raw = .attribute held →
    world.perform raw (.assignAutocommit value) s = (.ok (), s') →
      world.switch s' raw = .attribute value
  refuses : ∀ {s s' held value reason}, world.switch s raw = .attribute held →
    world.perform raw (.assignAutocommit value) s = (.error reason, s') →
      world.switch s' raw = .attribute held
  method : ∀ {s value}, world.switch s raw = .method →
    world.switch (world.perform raw (.callAutocommit value) s).2 raw = .method

/-- Assigns values one after the other, whether they are accepted or not, and lists those that
are. -/
def assignEach (world : World σ) (c : Connection) :
    List Value → Session σ → List Value × Session σ
  | [], s => ([], s)
  | value :: rest, s =>
    match on (setAutocommit world value c) s with
    | (.ok (), after) =>
      let (accepted, last) := assignEach world c rest after
      (value :: accepted, last)
    | (.error _, after) => assignEach world c rest after

/-- The session in which a value has been noted for a connection. -/
def noted (s : Session σ) (i : Nat) (value : Value) : Session σ :=
  s.updateWrapper i fun w => { w with autocommit := value }

@[simp] theorem noted_world (s : Session σ) (i : Nat) (value : Value) :
    (s.noted i value).world = s.world := rfl

section Wrapped

variable (world : World σ) {i : Nat} {s : Session σ} {w : Wrapper}
  (there : s.wrappers[i]? = some w)

include there

theorem autocommit_wrapped_on :
    on (autocommit world (.wrapped i)) s = (.ok (autocommitOf world s w), s) := by
  simp only [autocommit, on_bind, on_get, there]
  rfl

theorem noted_there (value : Value) :
    (s.noted i value).wrappers[i]? = some { w with autocommit := value } := by
  simp [noted, updateWrapper, there]

theorem setAutocommit_wrapped_on (value : Value) :
    on (setAutocommit world value (.wrapped i)) s =
      match world.switch s.world w.raw with
      | .method => on (ask (world.perform w.raw (.callAutocommit value))) (s.noted i value)
      | .attribute _ => on (ask (world.perform w.raw (.assignAutocommit value))) (s.noted i value)
      | .missing =>
        match value.excess? with
        | some e => (.error (.excess e), s.noted i value)
        | none =>
          (.ok (), { s.noted i value with records := s.records ++ [Log.debug .session
            ("Driver connection has no autocommit switch, keeping " ++ value.spell ++
              " locally")] }) := by
  have same : (s.updateWrapper i fun w => { w with autocommit := value }).world = s.world := rfl
  simp only [setAutocommit, on_bind, on_get, there, on_modify, same]
  rcases world.switch s.world w.raw with held | _ | _
  · rfl
  · rfl
  · cases value.excess? <;> rfl

end Wrapped

section Runs

variable {world : World σ} {c : Connection} {reads : Value → Session σ → Prop}

/-- Where a connection reads as the value it has accepted, it reads as the last of them. -/
theorem assignEach_accepted
    (switched : ∀ {v s} value, reads v s →
      match on (setAutocommit world value c) s with
      | (.ok (), after) => reads value after
      | (.error _, after) => reads v after)
    {v : Value} {s : Session σ} (before : reads v s) (values : List Value) :
    reads ((assignEach world c values s).1.getLast?.getD v) (assignEach world c values s).2 := by
  induction values generalizing v s with
  | nil => exact before
  | cons value rest ih =>
    have next := switched value before
    rw [assignEach]
    rcases answered : on (setAutocommit world value c) s with ⟨_ | _, after⟩ <;>
      rw [answered] at next
    · exact ih next
    · have later := ih next
      rw [List.getLast?_cons, Option.getD_some]
      exact later

/-- Where a connection reads as the value it was asked for, it reads as the last of them. -/
theorem assignEach_asked
    (ask : ∀ {v s} value, reads v s → reads value (on (setAutocommit world value c) s).2)
    {v : Value} {s : Session σ} (before : reads v s) (values : List Value) :
    reads (values.getLast?.getD v) (assignEach world c values s).2 := by
  induction values generalizing v s with
  | nil => exact before
  | cons value rest ih =>
    have asked := ask value before
    rw [assignEach, List.getLast?_cons, Option.getD_some]
    rcases answered : on (setAutocommit world value c) s with ⟨_ | _, after⟩ <;>
      rw [answered] at asked
    · exact ih asked
    · exact ih asked

end Runs

section Styles

variable {world : World σ} {i : Nat} {raw : Raw}

/-- The connection holds its value itself. -/
def Holds (world : World σ) (i : Nat) (raw : Raw) (value : Value) (s : Session σ) : Prop :=
  ∃ w, s.wrappers[i]? = some w ∧ w.raw = raw ∧ world.switch s.world raw = .attribute value

/-- The value is noted in the wrapper only. -/
def Notes (world : World σ) (i : Nat) (raw : Raw) (style : Switch) (value : Value)
    (s : Session σ) : Prop :=
  ∃ w, s.wrappers[i]? = some w ∧ w.raw = raw ∧ world.switch s.world raw = style ∧
    w.autocommit = value

theorem Holds.reading {v : Value} {s : Session σ} (holds : Holds world i raw v s) :
    (on (autocommit world (.wrapped i)) s).1 = .ok v := by
  obtain ⟨w, there, rfl, held⟩ := holds
  rw [autocommit_wrapped_on world there, autocommitOf, held]

theorem Notes.reading {style : Switch} (unheld : style.holds = false) {v : Value} {s : Session σ}
    (notes : Notes world i raw style v s) :
    (on (autocommit world (.wrapped i)) s).1 = .ok v := by
  obtain ⟨w, there, rfl, switched, rfl⟩ := notes
  rw [autocommit_wrapped_on world there, autocommitOf, switched]
  rcases style with held | _ | _
  · exact absurd unheld (by simp [Switch.holds])
  · rfl
  · rfl

theorem Holds.switched (reliable : Reliable world raw) {v : Value} {s : Session σ}
    (holds : Holds world i raw v s) (value : Value) :
    match on (setAutocommit world value (.wrapped i)) s with
    | (.ok (), after) => Holds world i raw value after
    | (.error _, after) => Holds world i raw v after := by
  obtain ⟨w, there, rfl, held⟩ := holds
  have noted := noted_there there value
  rw [setAutocommit_wrapped_on world there, held]
  simp only [ask_on, noted_world]
  rcases performed : world.perform w.raw (.assignAutocommit value) s.world with
    ⟨reason | _, state⟩
  · exact ⟨_, noted, rfl, reliable.refuses held performed⟩
  · exact ⟨_, noted, rfl, reliable.stores held performed⟩

theorem Notes.called (reliable : Reliable world raw) {v : Value} {s : Session σ}
    (notes : Notes world i raw .method v s) (value : Value) :
    Notes world i raw .method value (on (setAutocommit world value (.wrapped i)) s).2 := by
  obtain ⟨w, there, rfl, method, -⟩ := notes
  have noted := noted_there there value
  rw [setAutocommit_wrapped_on world there, method]
  simp only [ask_on, noted_world]
  exact ⟨_, noted, rfl, reliable.method method, rfl⟩

theorem Notes.kept {v : Value} {s : Session σ} (notes : Notes world i raw .missing v s)
    (value : Value) :
    (on (setAutocommit world value (.wrapped i)) s).1.isOk = value.isWritable ∧
      Notes world i raw .missing value (on (setAutocommit world value (.wrapped i)) s).2 := by
  obtain ⟨w, there, rfl, missing, -⟩ := notes
  have noted := noted_there there value
  rw [setAutocommit_wrapped_on world there, missing]
  unfold Value.isWritable
  cases value.excess? with
  | none => exact ⟨rfl, _, noted, rfl, missing, rfl⟩
  | some e => exact ⟨rfl, _, noted, rfl, missing, rfl⟩

/-- Without a switch a value is accepted if the record of it can be written out. -/
theorem Notes.accepted {v : Value} {s : Session σ} (notes : Notes world i raw .missing v s)
    (values : List Value) :
    (assignEach world (.wrapped i) values s).1 = values.filter Value.isWritable := by
  induction values generalizing v s with
  | nil => rfl
  | cons value rest ih =>
    obtain ⟨answer, kept⟩ := notes.kept value
    rw [assignEach, List.filter_cons]
    rcases answered : on (setAutocommit world value (.wrapped i)) s with ⟨_ | _, after⟩ <;>
      rw [answered] at answer kept
    · rw [← answer]
      exact ih kept
    · rw [← answer]
      exact congrArg (value :: ·) (ih kept)

end Styles

/-- What a connection in a wrapper reads as once values have been assigned to it, whether it has
accepted them or not. One that holds its value reads as the last value it has accepted, and as
before if there is none. Any other reads as the last value it was asked for, which is the last one
accepted only if that one was; without a switch, values are refused only if they cannot be written
out. -/
theorem autocommit_read_back (world : World σ) {i : Nat} {s : Session σ} {w : Wrapper}
    (there : s.wrappers[i]? = some w) (reliable : Reliable world w.raw) (values : List Value) :
    let initial := autocommitOf world s w
    let accepted := (assignEach world (.wrapped i) values s).1
    let after := (assignEach world (.wrapped i) values s).2
    let reading := (on (autocommit world (.wrapped i)) after).1
    let switch := world.switch s.world w.raw
    (switch.holds = true ∨ accepted.getLast? = values.getLast? →
        reading = .ok (accepted.getLast?.getD initial)) ∧
      (switch.holds = false → reading = .ok (values.getLast?.getD initial)) ∧
      (switch = .missing → accepted = values.filter Value.isWritable) := by
  intro initial accepted after reading switch
  have unheld (last : reading = .ok (values.getLast?.getD initial)) (own : switch.holds = false) :
      (switch.holds = true ∨ accepted.getLast? = values.getLast? →
        reading = .ok (accepted.getLast?.getD initial)) ∧
      (switch.holds = false → reading = .ok (values.getLast?.getD initial)) := by
    refine ⟨fun same => ?_, fun _ => last⟩
    rcases same with holds | same
    · exact absurd (own.symm.trans holds) (by simp)
    · rw [same, last]
  rcases style : switch with held | _ | _
  · have same : world.switch s.world w.raw = .attribute held := style
    have first : initial = held := by simp only [initial, autocommitOf, same]
    have run : Holds world i w.raw (accepted.getLast?.getD held) after :=
      assignEach_accepted (fun value holds => holds.switched reliable value)
        ⟨w, there, rfl, style⟩ values
    refine ⟨fun _ => ?_, nofun, nofun⟩
    rw [first]
    exact run.reading
  · have same : world.switch s.world w.raw = .method := style
    have first : w.autocommit = initial := by simp only [initial, autocommitOf, same]
    have run : Notes world i w.raw .method (values.getLast?.getD initial) after :=
      assignEach_asked (fun value notes => notes.called reliable value)
        ⟨w, there, rfl, style, first⟩ values
    obtain ⟨claimed, last⟩ := unheld (run.reading rfl) (by rw [style]; rfl)
    exact ⟨style ▸ claimed, style ▸ last, nofun⟩
  · have same : world.switch s.world w.raw = .missing := style
    have first : w.autocommit = initial := by simp only [initial, autocommitOf, same]
    have notes : Notes world i w.raw .missing initial s := ⟨w, there, rfl, style, first⟩
    have run : Notes world i w.raw .missing (values.getLast?.getD initial) after :=
      assignEach_asked (fun value notes => (notes.kept value).2) notes values
    obtain ⟨claimed, last⟩ := unheld (run.reading rfl) (by rw [style]; rfl)
    exact ⟨style ▸ claimed, style ▸ last, fun _ => notes.accepted values⟩

def isOff : Value → Bool
  | .bool false => true
  | _ => false

/-- A world of a single connection, which does not let itself be switched off. It holds its value or
is switched by a method. -/
def lastingWorld (method : Bool) : World Value where
  modules := []
  standard := none
  decrypt := none
  connect _ _ s := (.ok 0, s)
  perform _ deed s :=
    match deed with
    | .assignAutocommit value | .callAutocommit value =>
      if isOff value then (.error "refused", s) else (.ok (), value)
    | .commit | .rollback | .close => (.ok (), s)
  execute _ _ s := (.ok "", s)
  switch s _ := if method then .method else .attribute s
  closed _ _ := none
  metadata _ _ := none
  field _ _ _ := none

/-- A session with that connection in a wrapper. -/
def lastingSession : Session Value where
  world := .null
  wrappers := [{ raw := 0, metadata := ⟨none, none⟩ }]

theorem reliable_lastingWorld (raw : Raw) : Reliable (lastingWorld false) raw where
  stores := by
    intro s s' held value _ stored
    by_cases off : isOff value = true
    · simp [lastingWorld, off] at stored
    · have same : value = s' := by simpa [lastingWorld, off] using stored
      rw [← same]
      rfl
  refuses := by
    intro s s' held value reason before refused
    by_cases off : isOff value = true
    · have same : s = s' := (by simpa [lastingWorld, off] using refused : _ ∧ s = s').2
      rw [← same]
      exact before
    · simp [lastingWorld, off] at refused
  method := nofun

/-- A connection that holds its value is not switched off by refusing to be. -/
theorem lasting_connection_read_back :
    lastingSession.wrappers[0]? = some { raw := 0, metadata := ⟨none, none⟩ } ∧
      Reliable (lastingWorld false) 0 ∧
      (assignEach (lastingWorld false) (.wrapped 0) [.bool true, .bool false] lastingSession).1 =
        [.bool true] ∧
      (on (autocommit (lastingWorld false) (.wrapped 0))
        (assignEach (lastingWorld false) (.wrapped 0) [.bool true, .bool false]
          lastingSession).2).1 = .ok (.bool true) := by
  have there : lastingSession.wrappers[0]? = some { raw := 0, metadata := ⟨none, none⟩ } := rfl
  have reliable : Reliable (lastingWorld false) 0 := reliable_lastingWorld 0
  obtain ⟨read, -⟩ := autocommit_read_back _ there reliable [.bool true, .bool false]
  exact ⟨there, reliable, rfl, read (.inl rfl)⟩

/-- A connection that is switched by a method reads as switched off although it has refused. -/
theorem refused_value_read_back :
    (assignEach (lastingWorld true) (.wrapped 0) [.bool true, .bool false] lastingSession).1 =
        [.bool true] ∧
      (on (autocommit (lastingWorld true) (.wrapped 0))
        (assignEach (lastingWorld true) (.wrapped 0) [.bool true, .bool false]
          lastingSession).2).1 = .ok (.bool false) :=
  ⟨rfl, rfl⟩

end Stagewright.Session
