import Mathlib.Data.List.Basic
import Stagewright.Proofs.Code.Bench
import Stagewright.Proofs.Code.Position

/-!
What plans and program keep to while they are worked on in any order: nothing is taken back, a plan
hands over its code once, and a line stands as deep as blocks of its plan are open.
-/

namespace Stagewright.Code

namespace Bench

/-- What a bench may become: every plan is still there and goes on, and so does the program. -/
structure Continues (b later : Bench) : Prop where
  plans : ∀ id plan, b.plan? id = some plan →
    ∃ next, later.plan? id = some next ∧ plan.Continues next
  program : b.workshop.program <+: later.workshop.program

/-- Whether a plan has been handed over. -/
def Closed (b : Bench) (id : String) : Prop := ∃ plan, b.plan? id = some plan ∧ plan.closed = true

/-- The program is made of what the closed plans hand over, each of them once. -/
def HandedOver (b : Bench) : Prop :=
  ∃ order : List String, order.Nodup ∧ (∀ id, id ∈ order ↔ b.Closed id) ∧
    b.workshop.program = order.filterMap fun id => (b.plan? id).map Plan.fragment

/-- What holds between any two moves. -/
structure Sound (b : Bench) : Prop where
  known : b.Known
  depth : ∀ id plan, b.plan? id = some plan → plan.depth = b.opened.count id
  handed : b.HandedOver

theorem Continues.refl (b : Bench) : b.Continues b :=
  ⟨fun _ plan found => ⟨plan, found, .refl plan⟩, List.prefix_refl _⟩

theorem Continues.trans {first second third : Bench} (early : first.Continues second)
    (late : second.Continues third) : first.Continues third := by
  refine ⟨?_, early.program.trans late.program⟩
  intro id plan found
  obtain ⟨between, foundBetween, toBetween⟩ := early.plans id plan found
  obtain ⟨last, foundLast, toLast⟩ := late.plans id between foundBetween
  exact ⟨last, foundLast, toBetween.trans toLast⟩

/-- A bench that differs from another in one plan. -/
def Sets (b : Bench) (id : String) (plan : Plan) (later : Bench) : Prop :=
  ∀ other, later.plan? other = if other = id then some plan else b.plan? other

theorem sets_setPlan (b : Bench) (id : String) (plan : Plan) (opened : List String) :
    b.Sets id plan ⟨b.workshop.setPlan id plan, opened⟩ :=
  fun other => b.workshop.plan?_setPlan id other plan

theorem sets_deliver (b : Bench) (id : String) (plan : Plan) (program : Program)
    (records : List Log.Record) :
    b.Sets id plan ⟨{ b.workshop.setPlan id plan with program, records }, b.opened⟩ :=
  fun other => b.workshop.plan?_setPlan id other plan

namespace Sets

variable {b later : Bench} {id : String} {plan next : Plan}

theorem continues (sets : b.Sets id next later)
    (goesOn : ∀ plan, b.plan? id = some plan → plan.Continues next)
    (program : b.workshop.program <+: later.workshop.program) : b.Continues later := by
  refine ⟨?_, program⟩
  intro other plan found
  rw [sets other]
  by_cases here : other = id
  · rw [if_pos here]
    exact ⟨next, rfl, goesOn plan (here ▸ found)⟩
  · rw [if_neg here]
    exact ⟨plan, found, .refl plan⟩

theorem continues_of_found (sets : b.Sets id next later) (found : b.plan? id = some plan)
    (goesOn : plan.Continues next) (program : b.workshop.program <+: later.workshop.program) :
    b.Continues later := by
  refine sets.continues ?_ program
  intro same foundSame
  obtain rfl := Option.some.inj (found.symm.trans foundSame)
  exact goesOn

theorem known (sets : b.Sets id next later) (known : b.Known)
    (blocks : ∀ other ∈ later.opened, other = id ∨ other ∈ b.opened) : later.Known := by
  intro other open_
  rw [sets other]
  by_cases here : other = id
  · exact ⟨next, if_pos here⟩
  · rw [if_neg here]
    exact known other ((blocks other open_).resolve_left here)

theorem depth (sets : b.Sets id next later)
    (depth : ∀ other plan, b.plan? other = some plan → plan.depth = b.opened.count other)
    (here : next.depth = later.opened.count id)
    (elsewhere : ∀ other, other ≠ id → later.opened.count other = b.opened.count other) :
    ∀ other plan, later.plan? other = some plan → plan.depth = later.opened.count other := by
  intro other plan found
  rw [sets other] at found
  by_cases same : other = id
  · rw [if_pos same, Option.some.injEq] at found
    rw [← found, same, here]
  · rw [if_neg same] at found
    rw [elsewhere other same]
    exact depth other plan found

theorem closed_iff (sets : b.Sets id next later) (other : String) :
    later.Closed other ↔ if other = id then next.closed = true else b.Closed other := by
  unfold Closed
  rw [sets other]
  by_cases here : other = id <;> simp [here]

end Sets

/-- A plan that is closed by now is one that has been, or one of those that have just been. -/
theorem HandedOver.grow {b later : Bench} {fresh : List String} (handed : b.HandedOver)
    (continues : b.Continues later) (distinct : fresh.Nodup)
    (closed : ∀ id, later.Closed id ↔ b.Closed id ∨ id ∈ fresh)
    (open_ : ∀ id ∈ fresh, ¬b.Closed id)
    (program : later.workshop.program =
      b.workshop.program ++ fresh.filterMap fun id => (later.plan? id).map Plan.fragment) :
    later.HandedOver := by
  obtain ⟨order, nodup, members, same⟩ := handed
  have settled : order.filterMap (fun id => (b.plan? id).map Plan.fragment) =
      order.filterMap fun id => (later.plan? id).map Plan.fragment := by
    refine List.filterMap_congr fun id member => ?_
    obtain ⟨plan, found, closed⟩ := (members id).mp member
    obtain ⟨next, foundNext, goesOn⟩ := continues.plans id plan found
    rw [found, foundNext, Option.map_some, Option.map_some, goesOn.fragment closed]
  refine ⟨order ++ fresh, ?_, ?_, ?_⟩
  · refine List.nodup_append.mpr ⟨nodup, distinct, ?_⟩
    rintro id member _ new rfl
    exact open_ id new ((members id).mp member)
  · intro id
    rw [List.mem_append, members id, closed id]
  · rw [program, same, settled, List.filterMap_append]

namespace Change

variable {b next : Bench}

theorem continues (change : Change b next) : b.Continues next := by
  cases change with
  | idle => exact .refl b
  | start id cid component free =>
    refine (b.sets_setPlan id _ _).continues ?_ (List.prefix_refl _)
    intro plan found
    simp [free] at found
  | write id plan code found opened =>
    have goesOn := Plan.continues_write opened code
    exact (b.sets_setPlan id _ _).continues_of_found found goesOn (List.prefix_refl _)
  | deliver id plan records found opened =>
    have goesOn : plan.Continues { plan with closed := true } := Plan.continues_close
    exact (b.sets_deliver id _ _ records).continues_of_found found goesOn (List.prefix_append _ _)
  | enter id plan code found opened =>
    have goesOn := Plan.continues_enter opened code
    exact (b.sets_setPlan id _ _).continues_of_found found goesOn (List.prefix_refl _)
  | leave id plan outer found opened =>
    have goesOn : plan.Continues plan.leaveBlock := Plan.continues_leave
    exact (b.sets_setPlan id _ _).continues_of_found found goesOn (List.prefix_refl _)

theorem known (change : Change b next) (known : b.Known) : next.Known := by
  cases change with
  | idle => exact known
  | start id => exact (b.sets_setPlan id _ _).known known fun other open_ => .inr open_
  | write id => exact (b.sets_setPlan id _ _).known known fun other open_ => .inr open_
  | deliver id => exact (b.sets_deliver id _ _ _).known known fun other open_ => .inr open_
  | enter id => exact (b.sets_setPlan id _ _).known known fun other open_ => List.mem_cons.mp open_
  | leave id plan outer found opened =>
    refine (b.sets_setPlan id _ _).known known fun other open_ => .inr ?_
    rw [opened]
    exact List.mem_cons_of_mem id open_

theorem depth (change : Change b next) (sound : b.Sound) :
    ∀ id plan, next.plan? id = some plan → plan.depth = next.opened.count id := by
  cases change with
  | idle => exact sound.depth
  | start id cid component free =>
    refine (b.sets_setPlan id _ _).depth sound.depth ?_ fun _ _ => rfl
    have unopened : id ∉ b.opened := by
      intro open_
      obtain ⟨plan, found⟩ := sound.known id open_
      simp [free] at found
    exact (List.count_eq_zero.mpr unopened).symm
  | write id plan code found opened =>
    exact (b.sets_setPlan id _ _).depth sound.depth (sound.depth id plan found) fun _ _ => rfl
  | deliver id plan records found opened =>
    exact (b.sets_deliver id _ _ _).depth sound.depth (sound.depth id plan found) fun _ _ => rfl
  | enter id plan code found opened =>
    refine (b.sets_setPlan id _ _).depth sound.depth ?_ fun other elsewhere => ?_
    · rw [List.count_cons_self, ← sound.depth id plan found]
    · exact List.count_cons_of_ne elsewhere.symm
  | leave id plan outer found opened =>
    have inside : plan.depth = outer.count id + 1 := by
      rw [sound.depth id plan found, opened, List.count_cons_self]
    refine (b.sets_setPlan id _ _).depth sound.depth ?_ fun other elsewhere => ?_
    · simp [Plan.leaveBlock, inside]
    · rw [opened, List.count_cons_of_ne elsewhere.symm]

theorem handed (change : Change b next) (handed : b.HandedOver) : next.HandedOver := by
  have continues := change.continues
  -- only handing over closes a plan, so in all other cases the plans handed over stay the same
  have unchanged {id : String} {plan : Plan} (sets : b.Sets id plan next)
      (closed : plan.closed = true ↔ b.Closed id)
      (program : next.workshop.program = b.workshop.program) : next.HandedOver := by
    refine handed.grow continues List.nodup_nil ?_ (by simp) (by simp [program])
    intro other
    rw [sets.closed_iff other]
    by_cases here : other = id
    · simp [here, closed]
    · simp [here]
  have found_closed {id : String} {plan : Plan} (found : b.plan? id = some plan) :
      plan.closed = true ↔ b.Closed id := by
    simp [Closed, found]
  cases change with
  | idle => exact handed
  | start id cid component free =>
    exact unchanged (b.sets_setPlan id _ _) (by simp [Closed, free, Plan.start]) rfl
  | write id plan code found opened =>
    have asBefore := found_closed found
    exact unchanged (b.sets_setPlan id _ _) asBefore rfl
  | deliver id plan records found opened =>
    have sets := b.sets_deliver id { plan with closed := true }
      (b.workshop.program ++ [plan.fragment]) records
    refine @HandedOver.grow b _ [id] handed continues (by simp) ?_ ?_ ?_
    · intro other
      rw [sets.closed_iff other]
      by_cases here : other = id <;> simp [here]
    · intro other member
      rw [List.mem_singleton.mp member, ← found_closed found, opened]
      exact Bool.false_ne_true
    · rw [List.filterMap_cons, sets id, if_pos rfl]
      rfl
  | enter id plan code found opened =>
    have asBefore := found_closed found
    exact unchanged (b.sets_setPlan id _ _) asBefore rfl
  | leave id plan outer found opened =>
    have asBefore := found_closed found
    exact unchanged (b.sets_setPlan id _ _) asBefore rfl

theorem sound (change : Change b next) (sound : b.Sound) : next.Sound :=
  ⟨change.known sound.known, change.depth sound, change.handed sound.handed⟩

end Change

theorem Sound.moved {b : Bench} (sound : b.Sound) (moves : List Move) : (b.moved moves).Sound := by
  induction moves generalizing b with
  | nil => exact sound
  | cons m rest ih => exact ih ((move_change sound.known m).sound sound)

theorem Sound.continues {b : Bench} (sound : b.Sound) (moves : List Move) :
    b.Continues (b.moved moves) := by
  induction moves generalizing b with
  | nil => exact .refl b
  | cons m rest ih =>
    have change := move_change sound.known m
    exact change.continues.trans (ih (change.sound sound))

end Bench

/-- The lines that a move adds to an open plan, given the blocks that are open. -/
def Move.texts (opened : List String) (id : String) : Move → List String
  | .emit other statements =>
    if other = id then statements.map fun s => indented (opened.count id) s.text else []
  | .enter other header => if other = id then [indented (opened.count id) header.text] else []
  | .start .. | .flush _ | .leave => []

namespace Bench

variable {b : Bench} {id : String} {plan : Plan}

end Bench

end Stagewright.Code
