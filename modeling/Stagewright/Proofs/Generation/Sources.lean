import Stagewright.Proofs.Code.Rendering
import Stagewright.Proofs.Generation.Vocabulary
import Stagewright.Proofs.Text.Printable

/-!
Where the texts in the code of a stage come from. An expression of the program is a parameter or an
encrypted form as the stage holds it, the variables are those of the stage, and the keys are made of
its cid or of the connection it names.
-/

namespace Stagewright

/-- A text that a stage holds: a parameter, as it is or trimmed, or an encrypted form. -/
inductive View.Holds (view : View) : String → Prop
  | param (key : String) : Holds view (view.get key)
  | trimmed (key : String) : Holds view (view.trimmed key)
  | encrypted (key : String) : Holds view (view.encryptedText key)

namespace Code

/-- The key under which an expression looks up what an earlier stage has published. -/
def Expr.lookup? : Expr → Option String
  | .published key | .recordCount key => some key
  | _ => none

/-- The expressions that a statement writes out. -/
def Statement.exprs : Statement → List Expr
  | .bind _ e | .add _ e => [e]
  | .log _ _ args => args
  | _ => []

/-- The expression is one that the stage holds, if it is not left out. -/
inductive Operand.From (view : View) : Operand → Prop
  | given {source : String} : view.Holds source → From view (.given source)
  | absent : From view .absent
  | emptyText : From view .emptyText

/-- The variables of the expression are of `names`, and its texts from the stage. -/
def Expr.From (view : View) (names : Names) : Expr → Prop
  | .operand o => o.From view
  | .decrypt source => view.Holds source
  | .zero | .one | .dataSources => True
  | .read x | .loadDriver x | .metadataOf x | .successor x | .knownCount x => x.cid = names.cid
  | .pooled driverClass url user password name =>
    driverClass.From view ∧ ∀ x ∈ [url, user, password, name], x.cid = names.cid
  | .connect driver url user password =>
    ∀ x ∈ [driver, url, user, password], x.cid = names.cid
  | .served sources name => sources.cid = names.cid ∧ name.cid = names.cid
  | .published key => key = Role.conn.key (view.trimmed "connection")
  | .recordCount key => key = countKey (view.trimmed "connection")
  | .metadataField metadata field => metadata.cid = names.cid ∧ field ∈ ["user_name", "url"]

/-- The variables of the statement are of `names`, and its texts from the stage. What it looks up it
binds. -/
def Statement.From (view : View) (names : Names) : Statement → Prop
  | .bind x e => x.cid = names.cid ∧ e.From view names
  | .add x e => x.cid = names.cid ∧ e.From view names ∧ e.lookup? = none
  | .log level _ args => level = "debug" ∧ ∀ e ∈ args, e.From view names ∧ e.lookup? = none
  | .initPoolLog label => label = view.cid
  | .whenPresent x | .raiseUnserved x | .setAutocommit x _ | .effect x _ | .executeBatch x =>
    x.cid = names.cid
  | .whenUnserved x y | .eachCount x y => x.cid = names.cid ∧ y.cid = names.cid
  | .publish key x | .withhold key x =>
    (∃ role : Role, key = role.key names.cid) ∧ x.cid = names.cid
  | .verbatim _ => False

/-- What a stage looks up it binds, and the key is made of the connection that it names. -/
theorem Statement.From.lookup {view : View} {names : Names} {s : Statement}
    (from_ : s.From view names) {e : Expr} {key : String} (member : e ∈ s.exprs)
    (found : e.lookup? = some key) :
    ∃ x, s = .bind x e ∧ (e = .published (Role.conn.key (view.trimmed "connection")) ∨
      e = .recordCount (countKey (view.trimmed "connection"))) := by
  have unbound (none : e.lookup? = none) : False := by simp [none] at found
  cases s with
  | bind x bound =>
    obtain rfl := List.mem_singleton.mp member
    refine ⟨x, rfl, ?_⟩
    have own := from_.2
    cases e with
    | published key =>
      rw [show key = _ from own]
      exact .inl rfl
    | recordCount key =>
      rw [show key = _ from own]
      exact .inr rfl
    | _ => exact (unbound rfl).elim
  | add x added =>
    obtain rfl := List.mem_singleton.mp member
    exact (unbound from_.2.2).elim
  | log level message args => exact (unbound (from_.2 e member).2).elim
  | _ => exact absurd member List.not_mem_nil

end Code

/-- A stage without a newline in its names and in the texts that it holds. -/
structure View.OneLine (view : View) : Prop where
  cid : Text.OneLine view.cid
  component : Text.OneLine view.component
  held : ∀ s, view.Holds s → Text.OneLine s

namespace Code

open Text

theorem Local.oneLine_text {x : Local} (one : OneLine x.cid) : OneLine x.text := by
  have stem : OneLine x.slot.stem := by cases x.slot <;> decide
  exact .between stem (by decide) one

theorem Role.oneLine_key {cid : String} (one : OneLine cid) (role : Role) :
    OneLine (role.key cid) := by
  have stem : OneLine role.stem := by cases role <;> decide
  exact .between stem (by decide) one

theorem Operand.From.orEmpty {view : View} {name : String} (held : view.Holds name) :
    Operand.From view (if name.isEmpty then .emptyText else .given name) := by
  cases name.isEmpty with
  | true => exact .emptyText
  | false => exact .given held

section OneLine

variable {view : View} {names : Names} (one : view.OneLine) (own : OneLine names.cid)

include one

theorem Operand.From.oneLine {o : Operand} (from_ : o.From view) : OneLine o.text := by
  cases from_ with
  | given held => exact one.held _ held
  | absent => decide
  | emptyText => decide

include own

theorem Expr.From.oneLine {e : Expr} (from_ : e.From view names) : OneLine e.text := by
  have variable_ {x : Local} (theirs : x.cid = names.cid) : OneLine x.text :=
    x.oneLine_text (theirs ▸ own)
  have connection : OneLine (view.trimmed "connection") := one.held _ (.trimmed _)
  have listed {xs : List Local} (theirs : ∀ x ∈ xs, x.cid = names.cid) :
      ∀ piece ∈ xs.map Local.text, OneLine piece := by
    intro piece member
    obtain ⟨x, held, rfl⟩ := List.mem_map.mp member
    exact variable_ (theirs x held)
  cases e with
  | operand o => exact Operand.From.oneLine one from_
  | read x => exact variable_ from_
  | zero => decide
  | loadDriver x => exact .between (by decide) (variable_ from_) (by decide)
  | decrypt source => exact .between (by decide) (one.held _ from_) (by decide)
  | pooled driverClass url user password name =>
    obtain ⟨driver, theirs⟩ := from_
    have arguments := List.forall_mem_cons.mpr ⟨Operand.From.oneLine one driver, listed theirs⟩
    exact .between (by decide) (.intercalate (by decide) arguments) (by decide)
  | connect driver url user password =>
    obtain ⟨first, theirs⟩ := List.forall_mem_cons.mp from_
    have arguments := OneLine.intercalate (by decide : OneLine ", ") (listed theirs)
    exact .between (oneLine_append.mpr ⟨variable_ first, by decide⟩) arguments (by decide)
  | dataSources => decide
  | served sources name =>
    have source := oneLine_append.mpr ⟨variable_ from_.1, (by decide : OneLine "[")⟩
    exact .between source (variable_ from_.2) (by decide)
  | published key =>
    subst from_
    exact .between (by decide) (Role.oneLine_key connection .conn) (by decide)
  | recordCount key =>
    subst from_
    exact .between (by decide) (oneLine_append.mpr ⟨connection, by decide⟩) (by decide)
  | metadataOf conn => exact .between (by decide) (variable_ from_) (by decide)
  | metadataField metadata field =>
    have fields : ∀ name ∈ ["user_name", "url"], OneLine name := by decide
    exact .between (variable_ from_.1) (by decide) (fields field from_.2)
  | successor x => exact oneLine_append.mpr ⟨variable_ from_, by decide⟩
  | one => decide
  | knownCount each =>
    have test := OneLine.between (by decide : OneLine "0 if ") (variable_ from_)
      (by decide : OneLine " < 0 else ")
    exact oneLine_append.mpr ⟨test, variable_ from_⟩

/-- The messages of a log are literals, which break no line whatever they denote. -/
theorem Statement.From.oneLine {s : Statement} (from_ : s.From view names) : OneLine s.text := by
  have variable_ {x : Local} (theirs : x.cid = names.cid) : OneLine x.text :=
    x.oneLine_text (theirs ▸ own)
  have between {opening closing : String} {x : Local} (left : OneLine opening)
      (theirs : x.cid = names.cid) (right : OneLine closing) :
      OneLine (opening ++ x.text ++ closing) := .between left (variable_ theirs) right
  cases s with
  | bind x e => exact .between (variable_ from_.1) (by decide) (Expr.From.oneLine one own from_.2)
  | add x e => exact .between (variable_ from_.1) (by decide) (Expr.From.oneLine one own from_.2.1)
  | log level message args =>
    obtain ⟨rfl, theirs⟩ := from_
    have arguments : ∀ piece ∈ args.map Expr.text, OneLine piece := by
      intro piece member
      obtain ⟨e, held, rfl⟩ := List.mem_map.mp member
      exact Expr.From.oneLine one own (theirs e held).1
    have pieces := List.forall_mem_cons.mpr ⟨(shows_literal message).oneLine, arguments⟩
    exact .between (by decide) (.intercalate (by decide) pieces) (by decide)
  | initPoolLog label =>
    subst from_
    exact .between (by decide) one.cid (by decide)
  | whenPresent x => exact between (by decide) from_ (by decide)
  | whenUnserved sources name =>
    exact between (between (by decide) from_.1 (by decide)) from_.2 (by decide)
  | raiseUnserved name => exact between (by decide) from_ (by decide)
  | setAutocommit conn flag =>
    have value : OneLine (boolText flag) := by cases flag <;> decide
    exact .between (variable_ from_) (by decide) value
  | publish key x =>
    obtain ⟨⟨role, rfl⟩, theirs⟩ := from_
    have place := OneLine.between (by decide : OneLine "global_map[\"") (Role.oneLine_key own role)
      (by decide : OneLine "\"] = ")
    exact oneLine_append.mpr ⟨place, variable_ theirs⟩
  | withhold key x =>
    obtain ⟨⟨role, rfl⟩, theirs⟩ := from_
    have place := OneLine.between (by decide : OneLine "# global_map[\"")
      (Role.oneLine_key own role) (by decide : OneLine "\"] = ")
    exact oneLine_append.mpr ⟨place, variable_ theirs⟩
  | effect conn e =>
    have name : OneLine e.name := by cases e <;> decide
    exact oneLine_append.mpr ⟨.between (variable_ from_) (by decide) name, by decide⟩
  | executeBatch stmt => exact oneLine_append.mpr ⟨variable_ from_, by decide⟩
  | eachCount each stmt =>
    exact between (between (by decide) from_.1 (by decide)) from_.2 (by decide)
  | verbatim source => exact from_.elim

end OneLine

end Code

namespace Lifecycle

open Code

variable {view : View} {names : Names}

theorem debug_from {text : String} {args : List Expr}
    (from_ : ∀ e ∈ args, e.From view names ∧ e.lookup? = none) :
    Each (Statement.From view names) (debug view text args) :=
  .ite (fun _ => .cons (.intro rfl from_) .nil) fun _ => .nil

theorem reuse_from : Each (Statement.From view names) (Operation.code view names .reuse) := by
  have fields : ∀ e ∈ [Expr.metadataField names.metadata "user_name",
      .metadataField names.metadata "url"], e.From view names ∧ e.lookup? = none :=
    List.forall_mem_cons.mpr ⟨⟨.intro rfl (by simp), rfl⟩,
      List.forall_mem_singleton.mpr ⟨.intro rfl (by simp), rfl⟩⟩
  refine .ite (fun _ => .block rfl (.append (.cons (.intro rfl rfl) .nil) (.block rfl ?_)))
    fun _ => .nil
  exact .ite (fun _ => debug_from (List.forall_mem_nil _)) fun _ => debug_from fields

theorem effect_from (e : Effect) :
    Each (Statement.From view names) (Operation.code view names (.effect e)) := by
  have opening : ∀ arg ∈ (effectBracket view names e).openingArgs,
      arg.From view names ∧ arg.lookup? = none := by
    unfold effectBracket
    extract_lets connection closing
    cases e with
    | commit =>
      dsimp only
      split
      · exact List.forall_mem_singleton.mpr ⟨rfl, rfl⟩
      · exact List.forall_mem_nil _
    | rollback => exact List.forall_mem_nil _
    | close => exact List.forall_mem_nil _
  exact .append (.append (debug_from opening) (.cons rfl .nil)) (debug_from (List.forall_mem_nil _))

end Lifecycle

namespace Connection

open Code Lifecycle

variable {view : View} {names : Names}

theorem Strategy.driverClass_from (kind : StrategyKind) :
    (Strategy.driverClass ⟨kind, view, names⟩).From view := by
  cases kind with
  | generic => exact .emptyText
  | driverSpecified => exact .given (.param "driver_class")

theorem Strategy.buildUrl_from (kind : StrategyKind) :
    Each (Statement.From view names)
      (ofStatements (Strategy.buildUrl? ⟨kind, view, names⟩).toList) := by
  have bound : Each (Statement.From view names) (ofStatements
      [.bind names.url (.operand (.given (view.get "url")))]) :=
    .cons (.intro rfl (.given (.param "url"))) .nil
  cases kind with
  | generic =>
    simp only [buildUrl?]
    split
    · exact .nil
    · exact bound
  | driverSpecified => exact bound

theorem Strategy.sharedName_from (kind : StrategyKind) :
    (Strategy.sharedName ⟨kind, view, names⟩).From view :=
  .orEmpty (.param "shared_connection_name")

theorem Credentials.statements_from :
    Each (Statement.From view names)
      (ofStatements (Credentials.statements { view := view, names := names })) := by
  have user : Operand.From view (if view.isBlank "user" then .absent
      else .given (view.get "user")) := by
    cases view.isBlank "user" with
    | true => exact .absent
    | false => exact .given (.param "user")
  refine .cons (.intro rfl user) ?_
  simp only [passwordBindings]
  split
  · exact .cons (.intro rfl .absent) .nil
  · exact .cons (.intro rfl (.encrypted "password")) (.cons (.intro rfl rfl) .nil)
  · exact .cons (.intro rfl (.given (.param "password"))) (.cons (.intro rfl rfl) .nil)

theorem Request.lookupServed_from (strategy : Strategy) :
    Each (Statement.From view names) (Request.lookupServed ⟨view, names, strategy⟩) := by
  have name := Operand.From.orEmpty (@View.Holds.trimmed view "datasource_alias")
  refine .append (.append (.cons (.intro rfl trivial) (.cons (.intro rfl name) .nil)) ?_) ?_
  · exact .block (.intro rfl rfl) (.cons rfl .nil)
  · exact .cons (.intro rfl (.intro rfl rfl)) .nil

theorem registration_from : Each (Statement.From view names) (ofStatements (registration names)) :=
  .cons (.intro ⟨.conn, rfl⟩ rfl) <| .cons (.intro ⟨.url, rfl⟩ rfl) <|
    .cons (.intro ⟨.user, rfl⟩ rfl) <| .cons (.intro ⟨.pass, rfl⟩ rfl) .nil

theorem Request.code_from (kind : StrategyKind) (state : State) :
    Each (Statement.From view names) (Request.code ⟨view, names, ⟨kind, view, names⟩⟩ state) := by
  rw [Request.code_eq]
  cases state with
  | init => exact .cons (.intro rfl .absent) (.cons (.intro rfl .absent) .nil)
  | driverLoaded =>
    refine .append (.cons (.intro rfl (Strategy.driverClass_from kind))
      (.cons (.intro rfl rfl) .nil)) (debug_from ?_)
    exact List.forall_mem_singleton.mpr ⟨rfl, rfl⟩
  | urlBuilt =>
    simp only [ofStatements_append]
    exact .append (Strategy.buildUrl_from kind) Credentials.statements_from
  | connected =>
    have drivers (x : Local) (theirs : x.cid = names.cid) :
        ∀ y ∈ [x, names.url, names.dbUser, names.dbPwd], y.cid = names.cid := by
      simp [theirs, Names.url, Names.dbUser, Names.dbPwd]
    refine .append (.ite (fun _ => .append ?_ ?_) fun _ => ?_)
      (.ite (fun _ => reuse_from) fun _ => .nil)
    · exact .ite (fun _ => .cons rfl .nil) fun _ => .nil
    · refine .cons (.intro rfl (Strategy.sharedName_from kind)) (.cons (.intro rfl ?_) .nil)
      refine .intro (Strategy.driverClass_from kind) ?_
      simp [Names.url, Names.dbUser, Names.dbPwd, Names.sharedConnectionName]
    · refine .append (.append (debug_from ?_) (.cons (.intro rfl (drivers _ rfl)) .nil))
        (debug_from (List.forall_mem_singleton.mpr ⟨rfl, rfl⟩))
      cases view.isBlank "user" with
      | true => exact List.forall_mem_singleton.mpr ⟨rfl, rfl⟩
      | false =>
        exact List.forall_mem_cons.mpr ⟨⟨rfl, rfl⟩, List.forall_mem_singleton.mpr ⟨rfl, rfl⟩⟩
  | autoCommitSet =>
    dsimp only
    split
    · exact .nil
    · rename_i setting chosen
      rw [Strategy.eq_setAutocommit chosen]
      exact .block rfl (.append (debug_from (List.forall_mem_nil _)) (.cons rfl .nil))
  | registered =>
    exact .append (.ite (fun _ => lookupServed_from _) fun _ => .nil) registration_from
  | done => exact .nil

end Connection

namespace Generation

open Code Lifecycle Connection

theorem effectCode_from {view : View} {names : Names} (e : Effect) :
    Each (Statement.From view names) (effectCode view names e) := by
  rw [effectCode_eq]
  refine .append (.append (.cons (.intro rfl rfl) .nil) reuse_from) (.block rfl ?_)
  refine .append (.append (.ite (fun _ => ?_) fun _ => .nil) (effect_from e)) ?_
  · exact .cons (.intro rfl rfl) .nil
  · exact .ite (fun _ => effect_from .close) fun _ => .nil

/-- All of the code of a stage is made of what the stage holds. -/
theorem stageCode_from (kind : StageKind) (view : View) :
    Each (Statement.From view ⟨view.cid⟩) (stageCode kind view) := by
  cases kind with
  | connection => exact .flatMap fun state _ => Request.code_from _ state
  | commit => exact effectCode_from .commit
  | rollback => exact effectCode_from .rollback
  | close => exact effectCode_from .close

theorem stageCode_oneLine (kind : StageKind) {view : View} (one : view.OneLine) :
    ∀ line ∈ (stageCode kind view).texts, Text.OneLine line := by
  intro text member
  obtain ⟨line, held, rfl⟩ := List.mem_map.mp member
  have statement := (stageCode_from kind view line held).oneLine one one.cid
  exact oneLine_indented line.depth statement

end Generation

end Stagewright
