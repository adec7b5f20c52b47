/-!
Computations that may fail, and what is known about their parts once they have succeeded.
-/

namespace Stagewright.Attempt

variable {ε ε' α β σ : Type}

/-- A computation in two steps succeeds if both steps do. -/
theorem bind_ok {first : Except ε α} {next : α → Except ε β} {b : β} :
    first >>= next = .ok b ↔ ∃ a, first = .ok a ∧ next a = .ok b := by
  cases first <;> simp [bind, Except.bind]

/-- A computation in two steps fails where the first of them does, or else where the second does. -/
theorem bind_error {first : Except ε α} {next : α → Except ε β} {e : ε} :
    first >>= next = .error e ↔ first = .error e ∨ ∃ a, first = .ok a ∧ next a = .error e := by
  cases first <;> simp [bind, Except.bind]

/-- Nothing goes on after a refusal. -/
theorem refuse_ok {p : Prop} [Decidable p] {e : ε} {after : α → Except ε β} {next : Except ε β}
    {b : β} : (if p then throw e >>= after else next) = .ok b ↔ ¬p ∧ next = .ok b := by
  split
  · simp_all [bind, Except.bind, throw, throwThe, MonadExceptOf.throw]
  · simp_all

theorem pure_ok {a b : α} : (pure a : Except ε α) = .ok b ↔ a = b := by
  simp [pure, Except.pure]

theorem throw_ok {e : ε} {a : α} : (throw e : Except ε α) = .ok a ↔ False := by
  simp [throw, throwThe, MonadExceptOf.throw]

theorem mapError_ok {result : Except ε α} {f : ε → ε'} {a : α} :
    result.mapError f = .ok a ↔ result = .ok a := by
  cases result with
  | error e =>
    change Except.error (f e) = .ok a ↔ _
    simp
  | ok b =>
    change Except.ok b = .ok a ↔ _
    simp

/-- A computation gives what `Q` allows, or fails in a way that `P` allows. -/
inductive Meets (Q : α → Prop) (P : ε → Prop) : Except ε α → Prop
  | ok {a : α} (held : Q a) : Meets Q P (.ok a)
  | error {e : ε} (allowed : P e) : Meets Q P (.error e)

namespace Meets

variable {Q : α → Prop} {P : ε → Prop} {R : β → Prop}

theorem of_ok {a : α} (meets : Meets Q P (.ok a)) : Q a := by
  cases meets with
  | ok held => exact held

theorem of_error {e : ε} (meets : Meets Q P (.error e)) : P e := by
  cases meets with
  | error allowed => exact allowed

theorem pure {a : α} (held : Q a) : Meets Q P (Pure.pure a) := .ok held

theorem throw {e : ε} (allowed : P e) : Meets Q P (MonadExcept.throw e) := .error allowed

theorem bind {first : Except ε α} {next : α → Except ε β} (before : Meets Q P first)
    (after : ∀ a, Q a → Meets R P (next a)) : Meets R P (first >>= next) := by
  cases before with
  | ok held => exact after _ held
  | error allowed => exact .error allowed

/-- Nothing goes on after a refusal. -/
theorem refuse {e : ε} {next : β → Except ε α} (allowed : P e) :
    Meets Q P (MonadExcept.throw e >>= next) := .error allowed

theorem ite {p : Prop} [Decidable p] {yes no : Except ε α} (held : p → Meets Q P yes)
    (failed : ¬p → Meets Q P no) : Meets Q P (if p then yes else no) := by
  split
  · exact held ‹_›
  · exact failed ‹_›

theorem mono {P' : ε → Prop} {Q' : α → Prop} {result : Except ε α} (meets : Meets Q P result)
    (gives : ∀ a, Q a → Q' a) (fails : ∀ e, P e → P' e) : Meets Q' P' result := by
  cases meets with
  | ok held => exact .ok (gives _ held)
  | error allowed => exact .error (fails _ allowed)

theorem mapM {items : List α} {next : α → Except ε β}
    (each : ∀ a ∈ items, Meets (fun _ => True) P (next a)) :
    Meets (fun _ => True) P (items.mapM next) := by
  induction items with
  | nil => exact .pure trivial
  | cons first rest ih =>
    rw [List.mapM_cons]
    refine .bind (each first List.mem_cons_self) fun _ _ => .bind (Q := fun _ => True) ?_ fun _ _ =>
      .pure trivial
    exact ih fun a later => each a (List.mem_cons_of_mem first later)

theorem foldlM {items : List α} {next : β → α → Except ε β} {start : β} (first : R start)
    (each : ∀ b a, R b → Meets R P (next b a)) : Meets R P (items.foldlM next start) := by
  induction items generalizing start with
  | nil => exact .pure first
  | cons a rest ih =>
    rw [List.foldlM_cons]
    exact .bind (each start a first) fun _ held => ih held

end Meets

/-- From a state in `I` a computation gives what `Q` allows and leaves a state in `I`, or it fails
in a way that `P` allows. -/
def Keeps (I : σ → Prop) (Q : α → Prop) (P : ε → Prop) (p : StateT σ (Except ε) α) : Prop :=
  ∀ s, I s → Meets (fun r => Q r.1 ∧ I r.2) P (p.run s)

namespace Keeps

variable {I : σ → Prop} {Q : α → Prop} {P : ε → Prop} {R : β → Prop}

theorem pure {a : α} (held : Q a) : Keeps I Q P (Pure.pure a) :=
  fun _ inside => .ok ⟨held, inside⟩

theorem throw {e : ε} (allowed : P e) : Keeps I Q P (MonadExcept.throw e) :=
  fun _ _ => .error allowed

theorem bind {first : StateT σ (Except ε) α} {next : α → StateT σ (Except ε) β}
    (before : Keeps I Q P first) (after : ∀ a, Q a → Keeps I R P (next a)) :
    Keeps I R P (first >>= next) :=
  fun s inside => .bind (before s inside) fun r held => after r.1 held.1 r.2 held.2

theorem get {next : σ → StateT σ (Except ε) β} (after : ∀ s, I s → Keeps I R P (next s)) :
    Keeps I R P (MonadState.get >>= next) :=
  fun s inside => after s inside s inside

theorem set {s : σ} (inside : I s) : Keeps I (fun _ => True) P (MonadStateOf.set s) :=
  fun _ _ => .ok ⟨trivial, inside⟩

theorem update {f : σ → σ} (stays : ∀ s, I s → I (f s)) :
    Keeps I (fun _ => True) P (modify f) :=
  fun s inside => .ok ⟨trivial, stays s inside⟩

/-- What needs no state leaves it as it is. -/
theorem lift {result : Except ε α} (meets : Meets Q P result) :
    Keeps I Q P (liftM result : StateT σ (Except ε) α) := by
  intro s inside
  cases meets with
  | ok held => exact .ok ⟨held, inside⟩
  | error allowed => exact .error allowed

/-- Nothing goes on after a refusal. -/
theorem refuse {e : ε} {next : β → StateT σ (Except ε) α} (allowed : P e) :
    Keeps I Q P (MonadExcept.throw e >>= next) := fun _ _ => .error allowed

theorem ite {p : Prop} [Decidable p] {yes no : StateT σ (Except ε) α} (held : p → Keeps I Q P yes)
    (failed : ¬p → Keeps I Q P no) : Keeps I Q P (if p then yes else no) := by
  split
  · exact held ‹_›
  · exact failed ‹_›

theorem map {first : StateT σ (Except ε) α} {f : α → β} (before : Keeps I Q P first)
    (given : ∀ a, Q a → R (f a)) : Keeps I R P (f <$> first) := by
  rw [map_eq_pure_bind]
  exact .bind before fun a held => .pure (given a held)

theorem mapM {items : List α} {next : α → StateT σ (Except ε) β}
    (each : ∀ a ∈ items, Keeps I (fun _ => True) P (next a)) :
    Keeps I (fun _ => True) P (items.mapM next) := by
  induction items with
  | nil => exact .pure trivial
  | cons first rest ih =>
    rw [List.mapM_cons]
    refine .bind (each first List.mem_cons_self) fun _ _ => .bind (Q := fun _ => True) ?_ fun _ _ =>
      .pure trivial
    exact ih fun a later => each a (List.mem_cons_of_mem first later)

theorem forM {items : List α} {next : α → StateT σ (Except ε) PUnit}
    (each : ∀ a ∈ items, Keeps I (fun _ => True) P (next a)) :
    Keeps I (fun _ => True) P (items.forM next) := by
  induction items with
  | nil => exact .pure trivial
  | cons first rest ih =>
    exact .bind (each first List.mem_cons_self) fun _ _ =>
      ih fun a later => each a (List.mem_cons_of_mem first later)

theorem forIn {items : List α} {start : β} {next : α → β → StateT σ (Except ε) (ForInStep β)}
    (each : ∀ a ∈ items, ∀ b, Keeps I (fun _ => True) P (next a b)) :
    Keeps I (fun _ => True) P (ForIn.forIn items start next) := by
  induction items generalizing start with
  | nil => exact .pure trivial
  | cons first rest ih =>
    rw [List.forIn_cons]
    refine .bind (each first List.mem_cons_self start) fun step _ => ?_
    cases step with
    | done b => exact .pure trivial
    | yield b => exact ih fun a later => each a (List.mem_cons_of_mem first later)

end Keeps

end Stagewright.Attempt
