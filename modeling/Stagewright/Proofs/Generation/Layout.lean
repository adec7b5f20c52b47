import Stagewright.Proofs.Code.Layout
import Stagewright.Proofs.Generation.Acceptance
import Stagewright.Proofs.Generation.Opening
import Stagewright.Proofs.Lifecycle.Script

/-!
The layout of generated code. Blocks may be left without messages but never without a body, and what
needs a connection stands where there is one.
-/

namespace Stagewright

theorem View.withLog_self {view : View} (logged : view.logEnabled = true) :
    view.withLog true = view := by
  obtain ⟨stage, settings⟩ := view
  cases settings
  simp_all [View.withLog, View.logEnabled]

namespace Lifecycle

open Code

variable {view : View} {names : Names}

theorem enclosed_message (level text : String) (args : List Expr) :
    Enclosed names (message view level text args) :=
  .ite (fun _ => .cons rfl (by simp [Statement.binds?]) .nil) fun _ => .nil

theorem laid_message (level text : String) {args : List Expr}
    (apart : names.conn ∉ args.flatMap Expr.reads) : Laid names (message view level text args) :=
  .ite (fun _ => .cons rfl (Statement.not_reaches apart) .nil) fun _ => .nil

/-- The test for what a connection tells about itself stands inside the one for the connection. -/
theorem laid_diagnostic (level text : String) (args : List Expr) :
    Laid names (diagnostic names level text args) := by
  have told : Enclosed names (ofStatements [.log level text args]) :=
    .cons rfl (by simp [Statement.binds?]) .nil
  have binding : Enclosed names (ofStatements [.bind names.metadata (.metadataOf names.conn)]) := by
    refine .cons rfl ?_ .nil
    simp [Statement.binds?, Names.metadata, Names.conn]
  have inner : Enclosed names (Code.block (.whenPresent names.metadata)
      (ofStatements [.log level text args])) :=
    told.block rfl rfl (List.cons_ne_nil _ _) (by simp [Statement.binds?])
  exact .guard (binding.append inner) (List.cons_ne_nil _ _)

theorem laid_reuse : Laid names (Operation.code view names .reuse) := by
  refine .ite (fun logged => ?_) fun _ => .nil
  obtain ⟨text, args, same⟩ := reuseCode_eq_diagnostic view names
  rw [View.withLog_self logged] at same
  rw [same]
  exact laid_diagnostic "debug" text args

theorem enclosed_effect (e : Effect) : Enclosed names (Operation.code view names (.effect e)) := by
  have effect : Enclosed names (ofStatements [.effect names.conn e]) :=
    .cons rfl (by simp [Statement.binds?]) .nil
  exact ((enclosed_message _ _ _).append effect).append (enclosed_message _ _ _)

theorem effect_ne_nil (e : Effect) : Operation.code view names (.effect e) ≠ [] := by
  simp [Operation.code, Bracket.around, ofStatements]

end Lifecycle

namespace Connection

open Code Lifecycle

variable {names : Names}

/-- Bindings of expressions in which the connection is not read, one after the other. -/
theorem laid_bind {x : Local} {e : Expr} {statements : List Statement}
    (apart : names.conn ∉ e.reads) (rest : Laid names (ofStatements statements)) :
    Laid names (ofStatements (.bind x e :: statements)) :=
  .cons rfl (Statement.not_reaches apart) rest

theorem Strategy.laid_buildUrl (strategy : Strategy) :
    Laid names (ofStatements strategy.buildUrl?.toList) := by
  simp only [buildUrl?]
  split
  · split
    · exact .nil
    · exact laid_bind List.not_mem_nil .nil
  · exact laid_bind List.not_mem_nil .nil

theorem Credentials.laid_statements (credentials : Credentials) :
    Laid names (ofStatements credentials.statements) := by
  have copied : names.conn ∉ (Expr.read credentials.names.decryptedPassword).reads := by
    simp [Expr.reads, Names.conn, Names.decryptedPassword]
  refine laid_bind List.not_mem_nil ?_
  simp only [passwordBindings]
  split
  · exact laid_bind List.not_mem_nil .nil
  · exact laid_bind List.not_mem_nil (laid_bind copied .nil)
  · exact laid_bind List.not_mem_nil (laid_bind copied .nil)

/-- An alias that nobody serves is refused in a block of its own. -/
theorem Request.laid_lookupServed (request : Request) : Laid names request.lookupServed := by
  have refusal : Laid names (Code.block
      (.whenUnserved request.names.dataSources request.names.dsAlias)
      (ofStatements [.raiseUnserved request.names.dsAlias])) := by
    have raising : ¬(Statement.raiseUnserved request.names.dsAlias).Reaches names :=
      Statement.not_reaches (by simp [Statement.reads, Names.conn, Names.dsAlias])
    refine .block rfl rfl (.cons rfl raising .nil) (List.cons_ne_nil _ _) ?_ (.cons raising .nil)
    refine Statement.not_reaches ?_
    simp [Statement.reads, Names.conn, Names.dataSources, Names.dsAlias]
  have served : names.conn ∉
      (Expr.served request.names.dataSources request.names.dsAlias).reads := by
    simp [Expr.reads, Names.conn, Names.dataSources, Names.dsAlias]
  refine Laid.append (.append ?_ refusal) (laid_bind served .nil)
  exact laid_bind List.not_mem_nil (laid_bind List.not_mem_nil .nil)

theorem laid_registration : Laid names (ofStatements (registration names)) := by
  have published (key : String) (x : Local) : ¬(Statement.publish key x).Reaches names := by
    rintro ⟨reads, -, unpublished⟩
    obtain rfl : names.conn = x := List.mem_singleton.mp reads
    exact unpublished key rfl
  have withheld (key : String) (x : Local) : ¬(Statement.withhold key x).Reaches names :=
    Statement.not_reaches List.not_mem_nil
  exact .cons rfl (published _ _) (.cons rfl (published _ _)
    (.cons rfl (withheld _ _) (.cons rfl (withheld _ _) .nil)))

/-- Whatever a step writes is laid out by itself. -/
theorem Request.laid_code (request : Request) (state : State) :
    Laid request.names (request.code state) := by
  rw [Request.code_eq]
  cases state with
  | init => exact laid_bind List.not_mem_nil (laid_bind List.not_mem_nil .nil)
  | driverLoaded =>
    have driver : request.names.conn ∉
        (Expr.loadDriver request.strategy.names.driverClass).reads := by
      simp [Expr.reads, Names.conn, Names.driverClass]
    refine (laid_bind List.not_mem_nil (laid_bind driver .nil)).append (laid_message _ _ ?_)
    simp [Note.arguments, Expr.reads, Names.conn, Names.driverClass]
  | urlBuilt =>
    simp only [ofStatements_append]
    exact (Strategy.laid_buildUrl _).append (Credentials.laid_statements _)
  | connected =>
    refine Laid.append (.ite (fun _ => ?shared) fun _ => ?direct)
      (.ite (fun _ => laid_reuse) fun _ => .nil)
    case shared =>
      refine Laid.append (.ite (fun _ => .cons rfl ?_ .nil) fun _ => .nil) ?_
      · exact Statement.not_reaches List.not_mem_nil
      refine laid_bind List.not_mem_nil (laid_bind ?_ .nil)
      simp [Expr.reads, Names.conn, Names.url, Names.dbUser, Names.dbPwd,
        Names.sharedConnectionName]
    case direct =>
      refine ((laid_message _ _ ?_).append (laid_bind ?_ .nil)).append (laid_message _ _ ?_)
      · cases request.view.isBlank "user" <;>
          simp [Note.arguments, Expr.reads, Names.conn, Names.url, Names.dbUser]
      · simp [Expr.reads, Names.conn, Names.driver, Names.url, Names.dbUser, Names.dbPwd]
      · simp [Note.arguments, Expr.reads, Names.conn, Names.url]
  | autoCommitSet =>
    dsimp only
    split
    · exact .nil
    · rename_i setting chosen
      rw [Strategy.eq_setAutocommit chosen]
      refine .guard ((enclosed_message _ _ _).append ?_) ?_
      · exact .cons rfl (by simp [Statement.binds?]) .nil
      · simp [Operation.code, ofStatements]
  | registered =>
    exact Laid.append (.ite (fun _ => request.laid_lookupServed) fun _ => .nil) laid_registration
  | done => exact .nil

end Connection

namespace Generation

open Code Lifecycle Connection

theorem laid_effectCode (view : View) (names : Names) (e : Effect) :
    Laid names (effectCode view names e) := by
  rw [effectCode_eq]
  have counter : Enclosed names (if e = .commit ∧ dataAction view ≠ "" then
      ofStatements [.bind names.commitCounter
        (.recordCount (countKey (view.trimmed "connection")))] else []) := by
    refine .ite (fun _ => .cons rfl ?_ .nil) fun _ => .nil
    simp [Statement.binds?, Names.commitCounter, Names.conn]
  have closing : Enclosed names (if e ≠ .close ∧ view.flag "close" then
      Operation.code view names (.effect .close) else []) :=
    .ite (fun _ => enclosed_effect .close) fun _ => .nil
  have lookup : Laid names (ofStatements [lookup names (view.trimmed "connection")]) :=
    laid_bind List.not_mem_nil .nil
  refine (lookup.append laid_reuse).append
    (.guard ((counter.append (enclosed_effect e)).append closing) ?_)
  simp [effect_ne_nil]

theorem laid_stageCode (kind : StageKind) (view : View) :
    Laid ⟨view.cid⟩ (stageCode kind view) := by
  cases kind with
  | connection => exact .flatMap fun state => (request view).laid_code state
  | commit => exact laid_effectCode view ⟨view.cid⟩ .commit
  | rollback => exact laid_effectCode view ⟨view.cid⟩ .rollback
  | close => exact laid_effectCode view ⟨view.cid⟩ .close

/-- A line that begins with the connection of stage `cid` as a thing to act on, or in whose own
words that connection stands, other than to bind it, to test whether there is one or to publish it.
What an expression of the configuration does is its own affair. -/
def Uses (cid : String) (line : Line) : Prop :=
  ("conn_" ++ cid ++ ".").toList <+: line.statement.text.toList ∨
    ⟨.conn, cid⟩ ∈ line.statement.uses ∧ line.statement ≠ .whenPresent ⟨.conn, cid⟩ ∧
      ∀ key, line.statement ≠ .publish key ⟨.conn, cid⟩

/-- A line at `depth` stands in the block of a line that makes sure of the connection of stage
`cid`, and no line in between gives the variable another value. -/
def MadeSure (before : Code) (cid : String) (depth : Nat) : Prop :=
  ∃ (earlier : Code) (header : Line) (between : Code), before = earlier ++ header :: between ∧
    header.statement.text = "if conn_" ++ cid ++ " is not None:" ∧ header.depth < depth ∧
    ∀ line ∈ between, header.depth < line.depth ∧
      ¬("conn_" ++ cid ++ " = ").toList <+: line.statement.text.toList

theorem whenPresent_conn_text (cid : String) :
    (Statement.whenPresent (Names.conn ⟨cid⟩)).text = "if conn_" ++ cid ++ " is not None:" := by
  change "if " ++ (Names.conn ⟨cid⟩).text ++ " is not None:" = _
  refine String.toList_inj.mp ?_
  rw [Names.conn_text]
  simp

section Text

variable {view : View} {cid : String}

theorem uses_reaches {line : Line} (from_ : line.statement.From view ⟨cid⟩)
    (uses : Uses cid line) : line.statement.Reaches ⟨cid⟩ := by
  rcases uses with begins | ⟨stands, no_test, unpublished⟩
  · rw [← Names.conn_text] at begins
    have reaches := from_.reaches_of_begins rfl (by simp [Names.conn]) begins
    rcases reaches with ⟨flag, sets⟩ | ⟨e, does⟩ | runs
    · rw [sets]
      exact ⟨List.mem_singleton_self _, by simp, by simp⟩
    · rw [does]
      exact ⟨List.mem_singleton_self _, by simp, by simp⟩
    · rw [runs]
      exact ⟨List.mem_singleton_self _, by simp, by simp⟩
  · exact ⟨(line.statement.mem_uses_iff _).mp stands, no_test, unpublished⟩

theorem madeSure_of_guards {before : Code} {depth : Nat} (guards : Guards before ⟨.conn, cid⟩ depth)
    (from_ : Each (Statement.From view ⟨cid⟩) before) : MadeSure before cid depth := by
  obtain ⟨earlier, header, between, split, present, inside, kept⟩ := guards
  refine ⟨earlier, header, between, split, ?_, inside, fun line member => ?_⟩
  · rw [present]
    exact whenPresent_conn_text cid
  · obtain ⟨deeper, other⟩ := kept line member
    refine ⟨deeper, fun begins => other ?_⟩
    have theirs := from_ line (by simp [split, member])
    rw [← Names.conn_text] at begins
    obtain ⟨e, binds⟩ := (theirs.binds_iff rfl (by simp [Names.conn])).mp begins
    rw [binds]
    exact rfl

/-- The lines that open a block are those that begin like one. -/
theorem header_iff {s : Statement} (from_ : s.From view ⟨cid⟩) (conditional : s.Conditional) :
    s.isHeader = true ↔ "if ".toList <+: s.text.toList := by
  constructor
  · exact fun header => Statement.begins_of_keyword (conditional header)
  · intro begins
    have named := Statement.keyword_of_begins from_.not_verbatim (by decide) begins
    cases s <;> simp_all [Statement.keyword?, Statement.isHeader]

end Text

/-- Whatever a stage is told, and whether the job keeps a log or not, a fragment that its generator
hands over is well indented. Every line after an `if` stands one step further in, no other line
further in than the line in front of it, and no block is left without a body. Whatever is done to
the connection of the stage is done in a block for the case that there is one. -/
theorem generateView_laid_out (kind : StageKind) (view : View) :
    Yields kind view fun fragment => fragment.code ≠ [] ∧ WellIndented fragment.code ∧
      (∀ line ∈ fragment.code,
        line.statement.isHeader = true ↔ "if ".toList <+: line.statement.text.toList) ∧
      ∀ before line after, fragment.code = before ++ line :: after → Uses view.cid line →
        MadeSure before view.cid line.depth := by
  have laid := laid_stageCode kind view
  have from_ := stageCode_from kind view
  refine yields_of_fragment ⟨stageCode_ne_nil kind view, laid.indented, fun line member => ?_, ?_⟩
  · exact header_iff (from_ line member) (laid.conditional line member)
  · intro before line after split uses
    have member : line ∈ stageCode kind view := by
      rw [show stageCode kind view = _ from split]
      simp
    have guards := laid.guarded before line after split (uses_reaches (from_ line member) uses)
    refine madeSure_of_guards guards fun earlier among => from_ earlier ?_
    rw [show stageCode kind view = _ from split]
    exact List.mem_append_left _ among

/-- A stage whose address is an expression that has its connection commit. -/
def committingAddress : Stage where
  cid := "c"
  params := [(.text "url", .text "conn_c.commit()")]

/-- The expression is written out as it stands, where there need not be a connection. -/
theorem address_not_made_sure :
    ∃ fragment before line after,
      (generateView .connection ⟨committingAddress, {}⟩).1 = .ok fragment ∧
        fragment.code = before ++ line :: after ∧ line.text = "url_c = conn_c.commit()" ∧
        ¬MadeSure before "c" line.depth := by
  have fits : excess? .connection ⟨committingAddress, {}⟩ = none := by decide +kernel
  let line : Line := ⟨0, .bind (Names.url ⟨"c"⟩) (.operand (.given "conn_c.commit()"))⟩
  have written : line ∈ stageCode .connection ⟨committingAddress, {}⟩ := by decide +kernel
  obtain ⟨before, after, split⟩ := List.append_of_mem written
  refine ⟨_, before, line, after, generateView_ok_iff.mpr ⟨fits, rfl⟩, split, by decide, ?_⟩
  -- outside of all blocks nothing is made sure of
  rintro ⟨earlier, header, between, -, -, inside, -⟩
  exact absurd inside (Nat.not_lt_zero _)

end Generation

end Stagewright
