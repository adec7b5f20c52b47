import Stagewright.Proofs.Code.Workshop

/-!
A workshop in small moves. A block is taken apart into its being entered and its being left, so that
a run may stop at any place inside of a block and go on outside of it. What the moves keep to is
thereby kept to by blocks however they are left.
-/

namespace Stagewright.Code

/-- A workshop and the plans whose blocks are open in it, the innermost block first. -/
structure Bench where
  workshop : Workshop := {}
  opened : List String := []

/-- What is done on a bench. A block is left when its work is done or an error breaks it off. -/
inductive Move where
  | start (id cid component : String)
  | emit (id : String) (statements : List Statement)
  | flush (id : String)
  | enter (id : String) (header : Statement)
  | leave

namespace Bench

def plan? (b : Bench) (id : String) : Option Plan := b.workshop.plan? id

/-- The bench with another workshop in the place of its own, unless that failed. -/
def after (b : Bench) (opened : List String) :
    Except StepFault Workshop → Except StepFault Unit × Bench
  | .ok workshop => (.ok (), ⟨workshop, opened⟩)
  | .error fault => (.error fault, b)

/-- A plan that is started has a name of its own, so a name that is taken stays with its plan. -/
def move (b : Bench) : Move → Except StepFault Unit × Bench
  | .start id cid component =>
    if (b.plan? id).isSome then (.ok (), b)
    else b.after b.opened (.ok (b.workshop.setPlan id (Plan.start cid component)))
  | .emit id statements => b.after b.opened ((b.workshop.emit id statements).map (·.1))
  | .flush id => b.after b.opened (b.workshop.flush id)
  | .enter id header => b.after (id :: b.opened) (b.workshop.openBlock id header)
  | .leave =>
    match b.opened with
    | [] => (.ok (), b)
    | id :: outer => b.after outer (.ok (b.workshop.leaveBlock id))

/-- The bench after moves. A move that fails does not keep it from the next. -/
def moved (b : Bench) (moves : List Move) : Bench := moves.foldl (fun b m => (b.move m).2) b

theorem moved_append (b : Bench) (first second : List Move) :
    b.moved (first ++ second) = (b.moved first).moved second := List.foldl_append

/-- What a move comes to. -/
inductive Change (b : Bench) : Bench → Prop
  | idle : Change b b
  | start (id cid component : String) : b.plan? id = none →
      Change b ⟨b.workshop.setPlan id (Plan.start cid component), b.opened⟩
  | write (id : String) (plan : Plan) (code : Code) : b.plan? id = some plan →
      plan.closed = false →
      Change b ⟨b.workshop.setPlan id { plan with code := plan.code ++ code }, b.opened⟩
  | deliver (id : String) (plan : Plan) (records : List Log.Record) : b.plan? id = some plan →
      plan.closed = false →
      Change b ⟨{ b.workshop.setPlan id { plan with closed := true } with
        program := b.workshop.program ++ [plan.fragment], records }, b.opened⟩
  | enter (id : String) (plan : Plan) (code : Code) : b.plan? id = some plan →
      plan.closed = false →
      Change b ⟨b.workshop.setPlan id { plan with
        code := plan.code ++ code, depth := plan.depth + 1 }, id :: b.opened⟩
  | leave (id : String) (plan : Plan) (outer : List String) : b.plan? id = some plan →
      b.opened = id :: outer → Change b ⟨b.workshop.setPlan id plan.leaveBlock, outer⟩

/-- Every block that is open is one of a plan that has been started. -/
def Known (b : Bench) : Prop := ∀ id ∈ b.opened, ∃ plan, b.plan? id = some plan

theorem move_change {b : Bench} (known : b.Known) (m : Move) : Change b (b.move m).2 := by
  cases m with
  | start id cid component =>
    rw [move]
    split
    case isTrue => exact .idle
    case isFalse free => exact .start id cid component (Option.not_isSome_iff_eq_none.mp free)
  | emit id statements =>
    rw [move]
    cases made : b.workshop.emit id statements with
    | error fault => exact .idle
    | ok result =>
      obtain ⟨w, written⟩ := result
      obtain ⟨plan, found, opened, rfl, rfl⟩ := Workshop.emit_ok_iff.mp made
      exact .write id plan _ found opened
  | flush id =>
    rw [move]
    cases made : b.workshop.flush id with
    | error fault => exact .idle
    | ok w =>
      obtain ⟨plan, found, opened, rfl⟩ := Workshop.flush_ok_iff.mp made
      exact .deliver id plan _ found opened
  | enter id header =>
    rw [move]
    cases made : b.workshop.openBlock id header with
    | error fault => exact .idle
    | ok w =>
      obtain ⟨plan, found, opened, rfl⟩ := Workshop.openBlock_ok_iff.mp made
      exact .enter id plan _ found opened
  | leave =>
    rw [move]
    split
    case h_1 => exact .idle
    case h_2 id outer opened =>
      obtain ⟨plan, found⟩ := known id (opened ▸ List.mem_cons_self)
      rw [Workshop.leaveBlock_eq found]
      exact .leave id plan outer found opened

end Bench

variable {α : Type}

mutual

/-- Steps on plans that have been started: none starts another plan or adds a fragment. -/
def Step.isPlain : Step α → Bool
  | .start .. | .add _ => false
  | .emit .. | .flush _ | .look _ => true
  | .block _ _ _ body => arePlain body

def Step.arePlain : List (Step α) → Bool
  | [] => true
  | s :: rest => s.isPlain && arePlain rest

end

namespace Bench

theorem moved_single (b : Bench) (m : Move) : b.moved [m] = (b.move m).2 := rfl

mutual

/-- A step comes to moves, after which the same blocks are open as before, if it fails too. -/
theorem step_moved (b : Bench) : (s : Step α) → s.isPlain = true →
    ∃ moves, b.moved moves = ⟨(b.workshop.step s).2, b.opened⟩
  | .emit id statements, _ => by
    refine ⟨[.emit id statements], ?_⟩
    rw [moved_single, move, Workshop.step]
    cases b.workshop.emit id statements <;> rfl
  | .flush id, _ => by
    refine ⟨[.flush id], ?_⟩
    rw [moved_single, move, Workshop.step]
    cases b.workshop.flush id <;> rfl
  | .look see, _ => by
    refine ⟨[], ?_⟩
    rw [Workshop.step]
    cases see b.workshop <;> rfl
  | .block id header propagates body, plain => by
    rw [Workshop.step]
    cases made : b.workshop.openBlock id header with
    | error fault => exact ⟨[], rfl⟩
    | ok inside =>
      rw [Step.isPlain] at plain
      obtain ⟨moves, run⟩ := steps_moved ⟨inside, id :: b.opened⟩ propagates body plain
      refine ⟨.enter id header :: moves ++ [.leave], ?_⟩
      have entered : (b.move (.enter id header)).2 = ⟨inside, id :: b.opened⟩ := by
        rw [move, made]
        rfl
      rw [moved_append]
      change moved (moved (b.move (.enter id header)).2 moves) [.leave] = _
      rw [entered, run]
      rfl

theorem steps_moved (b : Bench) (propagates : Bool) : (work : List (Step α)) →
    Step.arePlain work = true →
      ∃ moves, b.moved moves = ⟨(b.workshop.steps propagates work).2, b.opened⟩
  | [], _ => ⟨[], by rw [Workshop.steps]; rfl⟩
  | s :: rest, plain => by
    rw [Step.arePlain, Bool.and_eq_true] at plain
    obtain ⟨first, runFirst⟩ := step_moved b s plain.1
    obtain ⟨second, runSecond⟩ :=
      steps_moved ⟨(b.workshop.step s).2, b.opened⟩ propagates rest plain.2
    rw [Workshop.steps]
    split
    case h_1 answer w done =>
      rw [done] at runFirst runSecond
      exact ⟨first ++ second, by rw [moved_append, runFirst, runSecond]⟩
    case h_2 fault w failed =>
      rw [failed] at runFirst runSecond
      split
      · exact ⟨first, runFirst⟩
      · exact ⟨first ++ second, by rw [moved_append, runFirst, runSecond]⟩

end

end Bench

end Stagewright.Code
