import Stagewright.Proofs.Code.Position
import Stagewright.Proofs.Code.Wording
import Stagewright.Proofs.Generation.Fragment

/-!
The statements that generated code is made of. Nothing in it is written by somebody else, nothing
reports unless the job keeps a log, and nothing is published but the connection of the stage.
-/

namespace Stagewright.Code

/-- Statements that only report: messages, handing the log to the pool, and asking a connection
whose it is. -/
def Statement.isReport : Statement → Bool
  | .log _ _ _ | .initPoolLog _ | .bind _ (.metadataOf _) => true
  | _ => false

/-- The statements of a stage that publishes the given variables under the given keys. -/
def Statement.Allowed (logged : Bool) (published : List (String × Local)) : Statement → Prop
  | .log _ _ _ | .initPoolLog _ | .bind _ (.metadataOf _) => logged
  | .publish key x => (key, x) ∈ published
  | .verbatim _ => False
  | _ => True

theorem Statement.Allowed.not_verbatim {logged : Bool} {published : List (String × Local)}
    {statement : Statement} (allowed : statement.Allowed logged published) (source : String) :
    statement ≠ .verbatim source := by
  rintro rfl
  exact allowed

theorem Statement.Allowed.not_isReport {published : List (String × Local)} {statement : Statement}
    (allowed : statement.Allowed false published) : statement.isReport = false := by
  cases statement with
  | log level message args => exact absurd allowed (by simp [Allowed])
  | initPoolLog label => exact absurd allowed (by simp [Allowed])
  | bind x e =>
    cases e with
    | metadataOf conn => exact absurd allowed (by simp [Allowed])
    | _ => rfl
  | _ => rfl

theorem indented_zero (text : String) : indented 0 text = text := by
  unfold indented
  split
  · exact (String.isEmpty_iff.mp ‹_›).symm
  · simp [indent]

/-- Inside a block a line begins with white space, and outside as its statement does. -/
theorem Line.text_begins (line : Line) (own : ∀ source, line.statement ≠ .verbatim source) :
    ∃ c, line.text.toList.head? = some c ∧
      (c = 'g' → line.depth = 0 ∧ ∃ key x, line.statement = .publish key x) := by
  obtain ⟨depth, statement⟩ := line
  obtain ⟨c, begins, publishes⟩ := statement.text_begins own
  have nonempty : ¬statement.text.isEmpty = true := by
    intro empty
    simp [String.isEmpty_iff.mp empty] at begins
  cases depth with
  | zero =>
    exact ⟨c, by rw [text, indented_zero, begins], fun g => ⟨rfl, publishes g⟩⟩
  | succ depth =>
    refine ⟨' ', ?_, fun g => absurd g (by decide)⟩
    simp [text, indented, nonempty, indent, Nat.mul_add, List.replicate_succ]

end Stagewright.Code

namespace Stagewright.Lifecycle

open Code

variable {view : View} {names : Names} {published : List (String × Local)}

theorem message_allowed {level text : String} {args : List Expr} :
    Each (Statement.Allowed view.logEnabled published) (message view level text args) :=
  .ite (fun logged => .cons logged .nil) fun _ => .nil

theorem reuse_allowed :
    Each (Statement.Allowed view.logEnabled published) (Operation.code view names .reuse) := by
  refine .ite (fun logged => ?_) fun _ => .nil
  refine .block trivial (.append (.cons logged .nil) (.block trivial ?_))
  exact .ite (fun _ => message_allowed) fun _ => message_allowed

theorem effect_allowed (e : Effect) :
    Each (Statement.Allowed view.logEnabled published) (Operation.code view names (.effect e)) :=
  .append (.append message_allowed (.cons trivial .nil)) message_allowed

end Stagewright.Lifecycle

namespace Stagewright.Connection

open Code Lifecycle

theorem Strategy.buildUrl_allowed {logged : Bool} {published : List (String × Local)}
    (strategy : Strategy) :
    Each (Statement.Allowed logged published) (ofStatements strategy.buildUrl?.toList) := by
  simp only [Strategy.buildUrl?]
  split
  · split
    · exact .nil
    · exact .cons trivial .nil
  · exact .cons trivial .nil

theorem Credentials.statements_allowed {logged : Bool} {published : List (String × Local)}
    (credentials : Credentials) :
    Each (Statement.Allowed logged published) (ofStatements credentials.statements) := by
  refine .cons trivial ?_
  simp only [Credentials.passwordBindings]
  split
  · exact .cons trivial .nil
  · exact .cons trivial (.cons trivial .nil)
  · exact .cons trivial (.cons trivial .nil)

/-- The only setting a strategy makes is that of the connection. -/
theorem Strategy.eq_setAutocommit {strategy : Strategy} {flag : Bool} {setting : Statement}
    (chosen : strategy.setAutocommit? flag = some setting) :
    setting = .setAutocommit strategy.names.conn flag := by
  simp only [setAutocommit?] at chosen
  split at chosen
  · exact (Option.some.inj chosen).symm
  · split at chosen
    · exact (Option.some.inj chosen).symm
    · exact absurd chosen (by simp)

/-- What a stage that gets a connection publishes. -/
def published (names : Names) : List (String × Local) :=
  [(Role.conn.key names.cid, names.conn), (Role.url.key names.cid, names.url)]

theorem Request.code_allowed (request : Request) (state : State) :
    Each (Statement.Allowed request.view.logEnabled (published request.names))
      (request.code state) := by
  rw [Request.code_eq]
  cases state with
  | init => exact .cons trivial (.cons trivial .nil)
  | driverLoaded => exact .append (.cons trivial (.cons trivial .nil)) message_allowed
  | urlBuilt =>
    dsimp only
    rw [ofStatements_append]
    exact .append (Strategy.buildUrl_allowed _) (Credentials.statements_allowed _)
  | connected =>
    refine .append (.ite (fun _ => ?_) fun _ => ?_) (.ite (fun _ => reuse_allowed) fun _ => .nil)
    · refine .append ?_ (.cons trivial (.cons trivial .nil))
      exact .ite (fun logged => .cons logged .nil) fun _ => .nil
    · exact .append (.append message_allowed (.cons trivial .nil)) message_allowed
  | autoCommitSet =>
    dsimp only
    split
    · exact .nil
    · rename_i setting chosen
      rw [Strategy.eq_setAutocommit chosen]
      exact .block trivial (.append message_allowed (.cons trivial .nil))
  | registered =>
    have address : (Role.url.key request.names.cid, request.names.url) ∈ published request.names :=
      List.mem_cons_of_mem _ List.mem_cons_self
    refine .append (.ite (fun _ => ?_) fun _ => .nil) ?_
    · exact .append (.append (.cons trivial (.cons trivial .nil)) (.block trivial
        (.cons trivial .nil))) (.cons trivial .nil)
    · exact .cons List.mem_cons_self (.cons address (.cons trivial (.cons trivial .nil)))
  | done => exact .nil

end Stagewright.Connection

namespace Stagewright.Generation

open Code Lifecycle Connection

theorem effectCode_allowed {view : View} {names : Names} {e : Effect} :
    Each (Statement.Allowed view.logEnabled []) (effectCode view names e) := by
  rw [effectCode_eq]
  refine .append (.append (.cons trivial .nil) reuse_allowed) (.block trivial ?_)
  refine .append (.append (.ite (fun _ => .cons trivial .nil) fun _ => .nil) (effect_allowed e)) ?_
  exact .ite (fun _ => effect_allowed .close) fun _ => .nil

/-- What the stages of a kind publish. -/
def publishedBy (kind : StageKind) (names : Names) : List (String × Local) :=
  if kind = .connection then published names else []

theorem stageCode_allowed (kind : StageKind) (view : View) :
    Each (Statement.Allowed view.logEnabled (publishedBy kind ⟨view.cid⟩))
      (stageCode kind view) := by
  cases kind with
  | connection => exact .flatMap fun state _ => (request view).code_allowed state
  | commit => exact effectCode_allowed
  | rollback => exact effectCode_allowed
  | close => exact effectCode_allowed

end Stagewright.Generation
