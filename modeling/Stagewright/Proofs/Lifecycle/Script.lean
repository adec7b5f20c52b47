import Stagewright.Lifecycle
import Stagewright.Proofs.Code.Annotation
import Stagewright.Proofs.Lifecycle.Parts

/-!
Scripts of what a stage has written to its plan, run with the log of the job on and off. The log
only annotates: it adds lines between those that are written without it. It can be in the way all
the same, since a report on a connection may ask for what nothing else asks for.
-/

namespace Stagewright

/-- The view of a stage whose job keeps a log, or keeps none. -/
def View.withLog (view : View) (enabled : Bool) : View :=
  { view with settings := { view.settings with logEnabled := enabled } }

namespace View

variable (view : View) (enabled : Bool)

@[simp]
theorem withLog_logEnabled : (view.withLog enabled).logEnabled = enabled := rfl

@[simp]
theorem withLog_component : (view.withLog enabled).component = view.component := rfl

@[simp]
theorem withLog_excess? (keys : List String) :
    (view.withLog enabled).excess? keys = view.excess? keys := rfl

end View

end Stagewright

namespace Stagewright.Lifecycle

open Code

variable {names : Names}

theorem message_annotated (view : View) (level text : String) (args : List Expr) :
    Annotated names (message (view.withLog false) level text args)
      (message (view.withLog true) level text args) :=
  .log 0 level (view.cid ++ " - " ++ text) args .nil

theorem around_annotated (bracket : Bracket) (view : View) {a b : Code}
    (body : Annotated names a b) :
    Annotated names (bracket.around (view.withLog false) a)
      (bracket.around (view.withLog true) b) :=
  ((message_annotated view "debug" bracket.opening bracket.openingArgs).append body).append
    (message_annotated view "debug" bracket.closing [])

/-- With the log on the report on a connection is one diagnostic. -/
theorem reuseCode_eq_diagnostic (view : View) (names : Names) :
    ∃ text args, reuseCode (view.withLog true) names = diagnostic names "debug" text args := by
  by_cases metadataLess : isMetadataLess view.component
  · refine ⟨view.cid ++ " - " ++ ("Uses an existing connection " ++ connectionLabel view ++ "."),
      [], ?_⟩
    have report : isMetadataLess (view.withLog true).component = true := metadataLess
    simp only [reuseCode, report, if_true]
    rfl
  · refine ⟨view.cid ++ " - " ++
      "Uses an existing connection with username '%s'. Connection URL: %s.",
      [.metadataField names.metadata "user_name", .metadataField names.metadata "url"], ?_⟩
    have report : ¬isMetadataLess (view.withLog true).component = true := metadataLess
    simp only [reuseCode, if_neg report]
    rfl

theorem reuse_annotated (view : View) :
    Annotated names (Operation.code (view.withLog false) names .reuse)
      (Operation.code (view.withLog true) names .reuse) := by
  obtain ⟨text, args, same⟩ := reuseCode_eq_diagnostic view names
  change Annotated names [] (reuseCode (view.withLog true) names)
  have nothing : Annotated names [] [] := .nil
  have annotated := Annotated.diagnostic 0 "debug" text args nothing
  rw [same]
  simpa using annotated

/-- What an operation writes with the log on is what it writes with the log off, annotated. -/
theorem Operation.code_annotated (view : View) (operation : Operation) :
    Annotated names (operation.code (view.withLog false) names)
      (operation.code (view.withLog true) names) := by
  cases operation with
  | log level text args => exact message_annotated view level text args
  | note n => exact message_annotated view "debug" _ _
  | connect statement =>
    exact ((message_annotated view "debug" _ _).append (.refl [⟨0, statement⟩])).append
      (message_annotated view "debug" _ _)
  | shareLog => exact .poolLog 0 view.cid .nil
  | reuse => exact reuse_annotated view
  | autoCommit flag statement =>
    exact (message_annotated view "debug" _ _).append (.refl [⟨0, statement⟩])
  | effect e => exact around_annotated _ view (.refl _)
  | executeBatch mode =>
    have batch : Annotated names (batchCode (view.withLog false) names mode)
        (batchCode (view.withLog true) names mode) := .refl (batchCode view names mode)
    exact .ite (fun _ => around_annotated _ view batch) fun _ => batch

/-- What a stage has written to its plan: operations, statements of its own, blocks, and anything
between two messages. -/
inductive Script where
  | operation (o : Operation)
  | emit (statements : List Statement)
  | block (header : Statement) (body : List Script)
  | bracket (opening : String) (openingArgs : List Expr) (closing : String)
      (closingArgs : List Expr) (body : List Script)

/-- Goes on with a plan where nothing has failed. -/
def goOn (done : Except GenerationError Unit × Plan)
    (next : Plan → Except GenerationError Unit × Plan) : Except GenerationError Unit × Plan :=
  match done with
  | (.ok (), plan) => next plan
  | (.error e, plan) => (.error e, plan)

mutual

/-- Has a plan written to, up to the first thing that cannot be written. Blocks are left in any
case. -/
def Script.run (view : View) (names : Names) (plan : Plan) :
    Script → Except GenerationError Unit × Plan
  | .operation o => plan.write (o.parts view names)
  | .emit statements => plan.write [{ view, code := ofStatements statements }]
  | .block header body =>
    match plan.openBlock header with
    | .error e => (.error (.emission e), plan)
    | .ok inside =>
      let (outcome, finished) := Script.runAll view names inside body
      (outcome, finished.leaveBlock)
  | .bracket opening openingArgs closing closingArgs body =>
    goOn (goOn (plan.write [{ view, code := debug view opening openingArgs }])
        fun begun => Script.runAll view names begun body)
      fun finished => finished.write [{ view, code := debug view closing closingArgs }]

def Script.runAll (view : View) (names : Names) (plan : Plan) :
    List Script → Except GenerationError Unit × Plan
  | [] => (.ok (), plan)
  | script :: rest =>
    goOn (Script.run view names plan script) fun next => Script.runAll view names next rest

end

mutual

/-- Whether there is a report on a connection among what is written. -/
def Script.reports : Script → Bool
  | .operation o => o = .reuse
  | .emit _ => false
  | .block _ body | .bracket _ _ _ _ body => Script.anyReports body

def Script.anyReports : List Script → Bool
  | [] => false
  | script :: rest => script.reports || Script.anyReports rest

end

/-- What a report on a connection asks for can be written out, if there is one that asks. -/
def Clear (view : View) (reports : Bool) : Prop :=
  reports = true → isMetadataLess view.component = true → view.excess? (labelKeys view) = none

/-- Two open plans at the same depth, the second of which holds the code of the first, annotated. -/
structure Alike (names : Names) (quiet loud : Plan) : Prop where
  quietOpen : quiet.closed = false
  loudOpen : loud.closed = false
  depth : quiet.depth = loud.depth
  code : Annotated names quiet.code loud.code

theorem Alike.leaveBlock {quiet loud : Plan} (alike : Alike names quiet loud) :
    Alike names quiet.leaveBlock loud.leaveBlock :=
  ⟨alike.quietOpen, alike.loudOpen, congrArg (· - 1) alike.depth, alike.code⟩

/-- What a run with the log on comes to beside the same run with the log off: it gets to its end if
the other one does and nothing stands in the way of a report, and then the plans are alike. -/
structure Follows (names : Names) (clear : Prop)
    (quiet loud : Except GenerationError Unit × Plan) : Prop where
  ok_iff : loud.1 = .ok () ↔ quiet.1 = .ok () ∧ clear
  alike : loud.1 = .ok () → Alike names quiet.2 loud.2

namespace Follows

variable {clear more : Prop} {quiet loud : Except GenerationError Unit × Plan}

theorem congr (follows : Follows names clear quiet loud) (same : clear ↔ more) :
    Follows names more quiet loud :=
  ⟨by rw [follows.ok_iff, same], follows.alike⟩

/-- Two runs that follow one another go on as runs that follow one another. -/
theorem goOn (follows : Follows names clear quiet loud)
    {next next' : Plan → Except GenerationError Unit × Plan}
    (later : ∀ {p p' : Plan}, Alike names p p' → Follows names more (next p) (next' p')) :
    Follows names (clear ∧ more) (goOn quiet next) (Lifecycle.goOn loud next') := by
  obtain ⟨ok_iff, alike⟩ := follows
  obtain ⟨loudOutcome, loudPlan⟩ := loud
  obtain ⟨quietOutcome, quietPlan⟩ := quiet
  cases loudOutcome with
  | ok =>
    obtain ⟨ended, held⟩ := ok_iff.mp rfl
    obtain rfl : quietOutcome = .ok () := ended
    have after := later (alike rfl)
    exact ⟨after.ok_iff.trans (and_congr_right fun _ => (and_iff_right held).symm), after.alike⟩
  | error e =>
    refine ⟨⟨nofun, fun ⟨ended, held, _⟩ => ?_⟩, nofun⟩
    cases quietOutcome with
    | ok => exact ok_iff.mpr ⟨rfl, held⟩
    | error e => exact nomatch ended

end Follows

/-- Parts whose code is annotated are written to alike plans alike, but for what they look at. -/
theorem Alike.write {quiet loud : Plan} (alike : Alike names quiet loud) {a b : List Part}
    {clear : Prop} (code : Annotated names (a.flatMap Part.code) (b.flatMap Part.code))
    (demands : excessOf? b = none ↔ excessOf? a = none ∧ clear) :
    Follows names clear (quiet.write a) (loud.write b) := by
  have reopened (plan : Plan) (opened : plan.closed = false) (parts : List Part) :
      plan.closed = true → parts.flatMap Part.code = [] :=
    fun closed => absurd (opened.symm.trans closed) Bool.false_ne_true
  have ok_iff : (loud.write b).1 = .ok () ↔ (quiet.write a).1 = .ok () ∧ clear := by
    rw [Plan.write_ok_iff, Plan.write_ok_iff, and_iff_left (reopened loud alike.loudOpen b),
      and_iff_left (reopened quiet alike.quietOpen a), demands]
  refine ⟨ok_iff, fun ended => ?_⟩
  obtain ⟨loudFits, -⟩ := (Plan.write_ok_iff b).mp ended
  obtain ⟨quietFits, -⟩ := demands.mp loudFits
  rw [Plan.write_all alike.loudOpen loudFits, Plan.write_all alike.quietOpen quietFits]
  refine ⟨alike.quietOpen, alike.loudOpen, alike.depth, alike.code.append ?_⟩
  rw [alike.depth]
  exact code.deeper loud.depth

/-- Code that looks at nothing is written in any case. -/
theorem Alike.writeCode {quiet loud : Plan} (alike : Alike names quiet loud) (view : View)
    {a b : Code} (code : Annotated names a b) :
    Follows names True (quiet.write [{ view := view.withLog false, code := a }])
      (loud.write [{ view := view.withLog true, code := b }]) :=
  alike.write (by simpa using code) (by simp [excessOf?, Part.excess?, View.excess?])

theorem labelKeys_withLog (view : View) (enabled : Bool) :
    labelKeys (view.withLog enabled) = labelKeys view := rfl

/-- Apart from a report on a connection nothing is looked at because there is a log. -/
theorem Operation.keys_withLog (view : View) (enabled : Bool) (operation : Operation) :
    operation.keys (view.withLog enabled) = operation.keys view := by
  cases operation with
  | note n => cases n <;> rfl
  | effect e => cases e <;> rfl
  | _ => rfl

theorem Operation.demands_withLog (view : View) (operation : Operation) :
    view.excess? (operation.demands (view.withLog true)) = none ↔
      view.excess? (operation.demands (view.withLog false)) = none ∧
        Clear view (operation = .reuse) := by
  cases operation with
  | reuse =>
    have nothing : view.excess? [] = none := rfl
    simp only [demands, View.withLog_logEnabled, View.withLog_component, labelKeys_withLog, Clear]
    by_cases asks : isMetadataLess view.component = true <;> simp [asks, nothing]
  | _ => simp [demands, Clear, keys_withLog, labelKeys_withLog]

theorem Operation.parts_follow (view : View) (operation : Operation) {quiet loud : Plan}
    (alike : Alike names quiet loud) :
    Follows names (Clear view (operation = .reuse))
      (quiet.write (operation.parts (view.withLog false) names))
      (loud.write (operation.parts (view.withLog true) names)) := by
  refine alike.write ?_ ?_
  · rw [code_parts, code_parts]
    exact operation.code_annotated view
  · rw [excessOf?_parts, excessOf?_parts]
    exact operation.demands_withLog view

theorem clear_or (view : View) (first second : Bool) :
    Clear view first ∧ Clear view second ↔ Clear view (first || second) := by
  cases first <;> cases second <;> simp [Clear]

mutual

/-- A run of a script with the log on follows the one with the log off. -/
theorem Script.run_follows (view : View) {quiet loud : Plan} (alike : Alike names quiet loud) :
    (script : Script) → Follows names (Clear view script.reports)
      (script.run (view.withLog false) names quiet) (script.run (view.withLog true) names loud)
  | .operation o => by
    simp only [Script.run, Script.reports]
    exact o.parts_follow view alike
  | .emit statements => by
    simp only [Script.run, Script.reports]
    exact (alike.writeCode view (.refl _)).congr (by simp [Clear])
  | .block header body => by
    simp only [Script.run, Script.reports, Plan.openBlock_open alike.quietOpen,
      Plan.openBlock_open alike.loudOpen]
    have inside : Alike names { quiet with
          code := quiet.code ++ Code.deeper quiet.depth [⟨0, header⟩], depth := quiet.depth + 1 }
        { loud with
          code := loud.code ++ Code.deeper loud.depth [⟨0, header⟩], depth := loud.depth + 1 } := by
      refine ⟨alike.quietOpen, alike.loudOpen, congrArg (· + 1) alike.depth, ?_⟩
      rw [alike.depth]
      exact alike.code.append (.refl _)
    -- a block is left however its body ends, so its outcome is that of the body
    have ran := Script.runAll_follow view inside body
    exact ⟨ran.ok_iff, fun ended => (ran.alike ended).leaveBlock⟩
  | .bracket opening openingArgs closing closingArgs body => by
    simp only [Script.run, Script.reports]
    have begun := alike.writeCode view (message_annotated view "debug" opening openingArgs)
    have ran := begun.goOn fun alike => Script.runAll_follow view alike body
    have ended := ran.goOn fun alike =>
      alike.writeCode view (message_annotated view "debug" closing closingArgs)
    exact ended.congr (by simp)

theorem Script.runAll_follow (view : View) {quiet loud : Plan} (alike : Alike names quiet loud) :
    (scripts : List Script) → Follows names (Clear view (Script.anyReports scripts))
      (Script.runAll (view.withLog false) names quiet scripts)
      (Script.runAll (view.withLog true) names loud scripts)
  | [] => by
    simp only [Script.runAll, Script.anyReports]
    exact ⟨by simp [Clear], fun _ => alike⟩
  | script :: rest => by
    simp only [Script.runAll, Script.anyReports]
    have first := Script.run_follows view alike script
    exact (first.goOn fun alike => Script.runAll_follow view alike rest).congr (clear_or view _ _)

end

end Stagewright.Lifecycle
