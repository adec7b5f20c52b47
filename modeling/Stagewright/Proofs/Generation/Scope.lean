import Stagewright.Proofs.Code.Scope
import Stagewright.Proofs.Generation.Vocabulary

/-!
Every variable that the code of a stage uses has been bound further up, in the same block or in one
around it.
-/

namespace Stagewright.Lifecycle

open Code

variable {view : View} {names : Names} {known : List Local}

theorem bound_message (level text : String) (args : List Expr) :
    bound (message view level text args) = [] := by
  unfold message
  split <;> simp [Statement.binds?]

theorem defined_message {args : List Expr} (level text : String)
    (reads : args.flatMap Expr.reads ⊆ known) :
    DefinedGiven known (message view level text args) := by
  exact .ite (fun _ => .cons reads .nil) fun _ => .nil

theorem defined_reuseCode (conn : names.conn ∈ known) :
    DefinedGiven known (reuseCode view names) := by
  unfold reuseCode
  refine .block (by simpa [Statement.reads] using conn) (.append (.cons ?_ .nil) (.block ?_ ?_))
  · simpa [Statement.reads, Expr.reads, Statement.binds?] using conn
  · simp [Statement.reads, Statement.binds?]
  · refine .ite (fun _ => defined_message _ _ (by simp)) fun _ => defined_message _ _ ?_
    simp [Expr.reads, Statement.binds?]

theorem defined_reuse (conn : names.conn ∈ known) :
    DefinedGiven known (Operation.code view names .reuse) :=
  .ite (fun _ => defined_reuseCode conn) fun _ => .nil

/-- Only the message before a commit of records has a gap to fill. -/
theorem effectBracket_openingArgs (view : View) (names : Names) (e : Effect) :
    (effectBracket view names e).openingArgs =
      if e = .commit ∧ dataAction view ≠ "" then [.read names.commitCounter] else [] := by
  unfold effectBracket
  cases e with
  | commit => by_cases records : dataAction view ≠ "" <;> simp [records]
  | rollback => simp
  | close => simp

/-- A bracketed effect needs the connection, and a commit of records their number as well. -/
theorem defined_effect {e : Effect} (conn : names.conn ∈ known)
    (counted : e = .commit ∧ dataAction view ≠ "" → names.commitCounter ∈ known) :
    DefinedGiven known (Operation.code view names (.effect e)) := by
  have effect : DefinedGiven known (ofStatements [.effect names.conn e]) :=
    .cons (by simpa [Statement.reads] using conn) .nil
  have opening : (effectBracket view names e).openingArgs.flatMap Expr.reads ⊆ known := by
    rw [effectBracket_openingArgs]
    split
    · rename_i records
      simpa [Expr.reads] using counted records
    · simp
  simp only [Operation.code, Bracket.around, debug]
  refine .append (.append (defined_message _ _ opening) ?_) (defined_message _ _ (by simp))
  exact effect.mono (List.subset_append_left _ _)

end Stagewright.Lifecycle

namespace Stagewright.Generation

open Code Lifecycle Connection

/-- The closing that may follow an effect. -/
theorem defined_closing {view : View} {names : Names} {known : List Local} (e : Effect)
    (conn : names.conn ∈ known) :
    DefinedGiven known (if e ≠ .close ∧ view.flag "close" then
      Operation.code view names (.effect .close) else []) :=
  .ite (fun _ => defined_effect conn (by simp)) fun _ => .nil

theorem defined_effectCode (view : View) (names : Names) (e : Effect) :
    DefinedGiven [] (effectCode view names e) := by
  rw [effectCode_eq]
  refine .append (.append (.cons ?_ .nil) (defined_reuse ?_))
    (.block ?_ (.append (.append ?_ (defined_effect ?_ ?_)) (defined_closing e ?_)))
  · simp [lookup, Statement.reads, Expr.reads]
  · simp [lookup, Statement.binds?]
  · simp [lookup, Statement.reads, Statement.binds?]
  · exact .ite (fun _ => .cons (by simp [Statement.reads, Expr.reads]) .nil) fun _ => .nil
  · simp [lookup, Statement.binds?]
  · intro records
    simp [records, Statement.binds?]
  · simp [lookup, Statement.binds?]

end Stagewright.Generation

namespace Stagewright.Connection

open Code Lifecycle

theorem Credentials.bound_statements (credentials : Credentials) :
    [credentials.names.dbUser, credentials.names.dbPwd] ⊆
      bound (ofStatements credentials.statements) := by
  cases chosen : credentials.mode <;>
    simp [statements, userBinding, passwordBindings, chosen, Statement.binds?]

theorem Credentials.defined_statements (credentials : Credentials) (known : List Local) :
    DefinedGiven known (ofStatements credentials.statements) := by
  refine .cons (by simp [userBinding, Statement.reads, Expr.reads]) ?_
  simp only [passwordBindings]
  split
  · exact .cons (by simp [Statement.reads, Expr.reads]) .nil
  · refine .cons (by simp [Statement.reads, Expr.reads]) (.cons ?_ .nil)
    simp [Statement.reads, Expr.reads, Statement.binds?]
  · refine .cons (by simp [Statement.reads, Expr.reads]) (.cons ?_ .nil)
    simp [Statement.reads, Expr.reads, Statement.binds?]

/-- What a step on the way to a connection uses without binding it itself. -/
def State.needs (mode : Mode) (names : Names) : State → List Local
  | .connected =>
    [names.url, names.dbUser, names.dbPwd] ++ if mode = .shared then [] else [names.driver]
  | .autoCommitSet => [names.conn]
  | .registered => names.url :: if mode = .served then [] else [names.conn]
  | _ => []

/-- What a step on the way to a connection binds for those after it. -/
def State.gives (names : Names) : State → List Local
  | .init => [names.conn, names.url]
  | .driverLoaded => [names.driverClass, names.driver]
  | .urlBuilt => [names.dbUser, names.dbPwd]
  | _ => []

section Request

variable {request : Request} {known : List Local}

theorem Request.gives_subset_bound (names : request.strategy.names = request.names)
    (state : State) : state.gives request.names ⊆ bound (request.code state) := by
  cases state with
  | init => simp [State.gives, Request.code_eq, Statement.binds?]
  | driverLoaded =>
    simp [State.gives, Request.code_eq, Statement.binds?, Strategy.loadClass, names]
  | urlBuilt =>
    simp only [Request.code_eq, ofStatements_append, bound_append]
    have credentials :=
      Credentials.bound_statements { view := request.view, names := request.names }
    exact List.subset_append_of_subset_right _ credentials
  | _ => simp [State.gives]

theorem Strategy.defined_buildUrl (strategy : Strategy) :
    DefinedGiven known (ofStatements strategy.buildUrl?.toList) := by
  simp only [buildUrl?]
  split
  · split
    · exact .nil
    · exact .cons (by simp [Statement.reads, Expr.reads]) .nil
  · exact .cons (by simp [Statement.reads, Expr.reads]) .nil

/-- A connecting statement stands between messages that read the address and the user. -/
theorem defined_connect {view : View} {names : Names} {statement : Statement}
    (reads : statement.reads ⊆ known) (told : [names.url, names.dbUser] ⊆ known) :
    DefinedGiven known (Operation.code view names (.connect statement)) := by
  have url : names.url ∈ known := told (by simp)
  simp only [Operation.code, debug]
  refine .append (.append (defined_message _ _ ?_) (.cons ?_ .nil)) (defined_message _ _ ?_)
  · cases view.isBlank "user" with
    | true => simpa [Note.arguments, Expr.reads] using url
    | false => simpa [Note.arguments, Expr.reads] using told
  · exact List.Subset.trans reads (List.subset_append_left _ _)
  · simpa [Note.arguments, Expr.reads] using Or.inl url

theorem defined_shareLog {view : View} {names : Names} :
    DefinedGiven known (Operation.code view names .shareLog) :=
  .ite (fun _ => .cons (by simp [Statement.reads]) .nil) fun _ => .nil

theorem bound_connect (view : View) (names : Names) (statement : Statement) :
    bound (Operation.code view names (.connect statement)) = statement.binds?.toList := by
  cases opened : statement.binds? <;>
    simp [Operation.code, debug, bound_message, opened]

theorem Request.defined_lookupServed : DefinedGiven known request.lookupServed := by
  unfold Request.lookupServed
  refine .append (.append (.cons ?_ (.cons ?_ .nil)) (.block ?_ (.cons ?_ .nil))) (.cons ?_ .nil)
  · simp [Statement.reads, Expr.reads]
  · simp [Statement.reads, Expr.reads]
  · simp [Statement.reads, Statement.binds?]
  · simp [Statement.reads, Statement.binds?]
  · simp [Statement.reads, Expr.reads, Statement.binds?]

theorem Request.conn_bound_lookupServed : request.names.conn ∈ bound request.lookupServed := by
  simp [Request.lookupServed, Statement.binds?]

variable (names : request.strategy.names = request.names)

include names in
/-- A step uses only what it needs from the steps before it and what it binds itself. -/
theorem Request.defined_code (state : State) :
    DefinedGiven (state.needs request.mode request.names) (request.code state) := by
  rw [Request.code_eq]
  cases state with
  | init =>
    refine .cons (by simp [Statement.reads, Expr.reads]) (.cons ?_ .nil)
    simp [Statement.reads, Expr.reads]
  | driverLoaded =>
    simp only [Strategy.loadClass, names]
    refine .append (.cons ?_ (.cons ?_ .nil)) (defined_message _ _ ?_)
    · simp [Statement.reads, Expr.reads]
    · simp [Statement.reads, Expr.reads, Statement.binds?]
    · simp [Note.arguments, Expr.reads, Statement.binds?]
  | urlBuilt =>
    simp only [ofStatements_append]
    exact .append (Strategy.defined_buildUrl _) (Credentials.defined_statements _ _)
  | connected =>
    have conn : request.names.conn ∈ bound (if request.mode = .shared then
        Operation.code request.view request.names .shareLog ++
          ofStatements request.strategy.acquireShared
        else Operation.code request.view request.names (.connect request.strategy.connect)) := by
      split
      · simp [Strategy.acquireShared, Statement.binds?, names]
      · simp [bound_connect, Strategy.connect, Statement.binds?, names]
    refine .append (.ite (fun shared => ?_) fun direct => ?_)
      (.ite (fun _ => defined_reuse (List.mem_append_right _ conn)) fun _ => .nil)
    · rw [Strategy.acquireShared, names]
      refine .append defined_shareLog (.cons ?_ (.cons ?_ .nil))
      · simp [Statement.reads, Expr.reads]
      · simp [Statement.reads, Expr.reads, Statement.binds?, State.needs]
    · refine defined_connect ?_ ?_
      · simp [Strategy.connect, Statement.reads, Expr.reads, State.needs, direct, names]
      · simp [State.needs]
  | autoCommitSet =>
    dsimp only
    split
    · exact .nil
    · rename_i setting chosen
      rw [Strategy.eq_setAutocommit chosen, names]
      refine .block (by simp [Statement.reads, State.needs])
        (.append (defined_message _ _ (by simp)) (.cons ?_ .nil))
      simp [Statement.reads, State.needs]
  | registered =>
    have statements {known : List Local} (both : [request.names.url, request.names.conn] ⊆ known) :
        DefinedGiven known (ofStatements (registration request.names)) := by
      have url : request.names.url ∈ known := both (by simp)
      have conn : request.names.conn ∈ known := both (by simp)
      unfold registration
      refine .cons ?_ (.cons ?_ (.cons ?_ (.cons ?_ .nil)))
      · simpa [Statement.reads] using conn
      · simpa [Statement.reads] using Or.inl url
      · simp [Statement.reads]
      · simp [Statement.reads]
    refine .append ?_ (statements ?_)
    · exact .ite (fun _ => Request.defined_lookupServed) fun _ => .nil
    · by_cases served : request.mode = .served
      · have conn := @Request.conn_bound_lookupServed request
        simp [State.needs, served, conn]
      · simp [State.needs, served]
  | done => exact .nil

/-- Every step finds what it needs given by the steps before it. -/
def Supplied (mode : Mode) (names : Names) (known : List Local) : List State → Prop
  | [] => True
  | state :: rest =>
    state.needs mode names ⊆ known ∧ Supplied mode names (known ++ state.gives names) rest

theorem Mode.route_supplied (mode : Mode) (names : Names) :
    Supplied mode names [] mode.route := by
  cases mode <;> simp [Supplied, Mode.route, State.needs, State.gives]

include names in
theorem Request.defined_steps {steps : List State} {known : List Local}
    (supplied : Supplied request.mode request.names known steps) :
    DefinedGiven known (steps.flatMap request.code) := by
  induction steps generalizing known with
  | nil => exact .nil
  | cons state rest ih =>
    obtain ⟨needs, onward⟩ := supplied
    have given := Request.gives_subset_bound names state
    rw [List.flatMap_cons]
    refine .append ((Request.defined_code names state).mono needs) ?_
    exact (ih onward).mono (List.append_subset.mpr
      ⟨List.subset_append_left _ _, List.Subset.trans given (List.subset_append_right _ _)⟩)

end Request

end Stagewright.Connection

namespace Stagewright.Generation

open Code Lifecycle Connection

theorem defined_stageCode (kind : StageKind) (view : View) :
    DefinedGiven [] (stageCode kind view) := by
  cases kind with
  | connection =>
    have onRoute := (request view).mode.route_supplied (request view).names
    exact Request.defined_steps rfl onRoute
  | commit => exact defined_effectCode view ⟨view.cid⟩ .commit
  | rollback => exact defined_effectCode view ⟨view.cid⟩ .rollback
  | close => exact defined_effectCode view ⟨view.cid⟩ .close

/-- Whatever a stage is told, in the fragment that its generator hands over every line finds the
variables that it uses bound by an earlier line, in the same block or in one around it. -/
theorem generateView_defined_before_use (kind : StageKind) (view : View) :
    Yields kind view fun fragment =>
      ∀ before line after, fragment.code = before ++ line :: after →
        ∀ x ∈ line.statement.uses, Binds before x line.depth := by
  refine yields_of_fragment ?_
  intro before line after split x member
  have defined := defined_stageCode kind view before line after split x member
  simpa using defined

end Stagewright.Generation
