import Stagewright.Proofs.Generation.Vocabulary

/-!
The milestones on the way to a connection: what is assigned to the connection and to its address,
how it commits, and what is published. A plan may say much in between, but these come once and in
one order.
-/

namespace Stagewright.Code

/-- The statement binds the variable. -/
def Statement.assigns (x : Local) : Statement → Bool
  | .bind y _ => y = x
  | _ => false

def Statement.sets (x : Local) : Statement → Bool
  | .setAutocommit y _ => y = x
  | _ => false

def Statement.isPublication : Statement → Bool
  | .publish _ _ => true
  | _ => false

def Statement.isMilestone (names : Names) (s : Statement) : Bool :=
  s.assigns names.conn || s.assigns names.url || s.sets names.conn || s.isPublication

@[simp] theorem Statement.isMilestone_publish (names : Names) (key : String) (x : Local) :
    (Statement.publish key x).isMilestone names = true := by
  simp [isMilestone, isPublication]

@[simp] theorem Statement.isMilestone_withhold (names : Names) (key : String) (x : Local) :
    (Statement.withhold key x).isMilestone names = false := by
  simp [isMilestone, assigns, sets, isPublication]

@[simp] theorem Statement.isMilestone_setAutocommit (names : Names) (x : Local) (flag : Bool) :
    (Statement.setAutocommit x flag).isMilestone names = decide (x = names.conn) := by
  simp [isMilestone, assigns, sets, isPublication]

@[simp] theorem Statement.isMilestone_bind (names : Names) (x : Local) (e : Expr) :
    (Statement.bind x e).isMilestone names =
      (decide (x = names.conn) || decide (x = names.url)) := by
  simp [isMilestone, assigns, sets, isPublication]

/-- Variables for other things may be bound at any time. -/
theorem Statement.isMilestone_bind_of_ne {names : Names} {x : Local} (e : Expr)
    (apart : x.slot ≠ .conn ∧ x.slot ≠ .url) : (Statement.bind x e).isMilestone names = false := by
  have notConn : x ≠ names.conn := fun same => apart.1 (congrArg Local.slot same)
  have notUrl : x ≠ names.url := fun same => apart.2 (congrArg Local.slot same)
  simp [notConn, notUrl]

/-- The milestones of code in their order. -/
def milestones (names : Names) (code : Code) : List Statement :=
  (code.map Line.statement).filter (Statement.isMilestone names)

section Milestones

variable {names : Names}

@[simp] theorem milestones_nil : milestones names [] = [] := rfl

@[simp] theorem milestones_append (a b : Code) :
    milestones names (a ++ b) = milestones names a ++ milestones names b := by
  simp [milestones]

@[simp] theorem milestones_ofStatements (statements : List Statement) :
    milestones names (ofStatements statements) =
      statements.filter (Statement.isMilestone names) := by
  simp [milestones, ofStatements, Function.comp_def]

/-- Headers are no milestones, so those of a block are those of its body. -/
theorem milestones_block {header : Statement} (opens : header.isHeader = true) (body : Code) :
    milestones names (Code.block header body) = milestones names body := by
  have plain : header.isMilestone names = false := by
    cases header <;> first | rfl | exact Bool.noConfusion opens
  have statements : (body.deeper 1).map Line.statement = body.map Line.statement := by
    simp [deeper, Line.deeper, Function.comp_def]
  rw [milestones, Code.block, List.map_cons, statements, List.filter_cons, plain]
  rfl

theorem milestones_eq_nil {code : Code}
    (none : Each (fun s => s.isMilestone names = false) code) : milestones names code = [] := by
  refine List.filter_eq_nil_iff.mpr fun s member => ?_
  obtain ⟨line, held, rfl⟩ := List.mem_map.mp member
  simp [none line held]

end Milestones

end Stagewright.Code

namespace Stagewright.Lifecycle

open Code

variable {view : View} {names : Names}

@[simp] theorem milestones_message (level text : String) (args : List Expr) :
    milestones names (message view level text args) = [] :=
  milestones_eq_nil (.ite (fun _ => .cons rfl .nil) fun _ => .nil)

@[simp] theorem milestones_reuse :
    milestones names (Operation.code view names .reuse) = [] := by
  have asks : (Statement.bind names.metadata (.metadataOf names.conn)).isMilestone names = false :=
    Statement.isMilestone_bind_of_ne _ (by simp [Names.metadata])
  refine milestones_eq_nil (.ite (fun _ => ?_) fun _ => .nil)
  refine .block rfl (.append (.cons asks .nil) (.block rfl ?_))
  exact .ite (fun _ => .ite (fun _ => .cons rfl .nil) fun _ => .nil)
    fun _ => .ite (fun _ => .cons rfl .nil) fun _ => .nil

@[simp] theorem milestones_connect (statement : Statement) :
    milestones names (Operation.code view names (.connect statement)) =
      [statement].filter (Statement.isMilestone names) := by
  simp [Operation.code, debug]

@[simp] theorem milestones_shareLog :
    milestones names (Operation.code view names .shareLog) = [] :=
  milestones_eq_nil (.ite (fun _ => .cons rfl .nil) fun _ => .nil)

end Stagewright.Lifecycle

namespace Stagewright.Connection

open Code Lifecycle

/-- The request of a stage that is told its strategy. -/
def requestBy (kind : StrategyKind) (view : View) : Request :=
  ⟨view, ⟨view.cid⟩, ⟨kind, view, ⟨view.cid⟩⟩⟩

section

variable (kind : StrategyKind) (view : View)

@[simp] theorem requestBy_view : (requestBy kind view).view = view := rfl

@[simp] theorem requestBy_names : (requestBy kind view).names = ⟨view.cid⟩ := rfl

@[simp] theorem requestBy_mode : (requestBy kind view).mode = Mode.select view := rfl

end

/-- The statement by which each mode gets the connection. -/
def acquisition (kind : StrategyKind) (view : View) : Statement :=
  let names : Names := ⟨view.cid⟩
  let strategy : Strategy := ⟨kind, view, names⟩
  match Mode.select view with
  | .direct => .bind names.conn (.connect names.driver names.url names.dbUser names.dbPwd)
  | .shared => .bind names.conn (.pooled strategy.driverClass names.url names.dbUser names.dbPwd
      names.sharedConnectionName)
  | .served => .bind names.conn (.served names.dataSources names.dsAlias)

section Steps

variable (kind : StrategyKind) (view : View)

/-- What a step adds to the milestones. -/
def stepMilestones : State → List Statement
  | .init =>
    [.bind (Names.conn ⟨view.cid⟩) (.operand .absent),
      .bind (Names.url ⟨view.cid⟩) (.operand .absent)]
  | .urlBuilt => (Strategy.buildUrl? ⟨kind, view, ⟨view.cid⟩⟩).toList
  | .connected => if Mode.select view = .served then [] else [acquisition kind view]
  | .autoCommitSet =>
    (Strategy.setAutocommit? ⟨kind, view, ⟨view.cid⟩⟩ (view.flag "auto_commit")).toList
  | .registered =>
    (if Mode.select view = .served then [acquisition kind view] else []) ++
      [.publish (Role.conn.key view.cid) (Names.conn ⟨view.cid⟩),
        .publish (Role.url.key view.cid) (Names.url ⟨view.cid⟩)]
  | .driverLoaded | .done => []

theorem milestones_credentials (credentials : Credentials) (names : Names) :
    milestones names (ofStatements credentials.statements) = [] := by
  have user (e : Expr) : (Statement.bind credentials.names.dbUser e).isMilestone names = false :=
    Statement.isMilestone_bind_of_ne e (by simp [Names.dbUser])
  have password (e : Expr) : (Statement.bind credentials.names.dbPwd e).isMilestone names = false :=
    Statement.isMilestone_bind_of_ne e (by simp [Names.dbPwd])
  have decrypted (e : Expr) :
      (Statement.bind credentials.names.decryptedPassword e).isMilestone names = false :=
    Statement.isMilestone_bind_of_ne e (by simp [Names.decryptedPassword])
  refine milestones_eq_nil (.cons (user _) ?_)
  simp only [Credentials.passwordBindings]
  split
  · exact .cons (password _) .nil
  · exact .cons (decrypted _) (.cons (password _) .nil)
  · exact .cons (decrypted _) (.cons (password _) .nil)

theorem milestones_buildUrl :
    milestones ⟨view.cid⟩ (ofStatements (Strategy.buildUrl? ⟨kind, view, ⟨view.cid⟩⟩).toList) =
      (Strategy.buildUrl? ⟨kind, view, ⟨view.cid⟩⟩).toList := by
  cases kind with
  | generic =>
    simp only [Strategy.buildUrl?]
    split
    · rfl
    · simp
  | driverSpecified => simp [Strategy.buildUrl?]

theorem isMilestone_acquisition : (acquisition kind view).isMilestone ⟨view.cid⟩ = true := by
  unfold acquisition
  split <;> simp

theorem milestones_connected (notServed : Mode.select view ≠ .served) :
    milestones ⟨view.cid⟩ ((requestBy kind view).code .connected) = [acquisition kind view] := by
  have report : milestones ⟨view.cid⟩ (if view.flag "use_existing_connection" then
      Operation.code view ⟨view.cid⟩ .reuse else []) = [] := by
    split
    · exact milestones_reuse
    · rfl
  have acquired := isMilestone_acquisition kind view
  rw [Request.code_eq, milestones_append]
  change milestones ⟨view.cid⟩ (if Mode.select view = .shared then
      Operation.code view ⟨view.cid⟩ .shareLog ++
        ofStatements (requestBy kind view).strategy.acquireShared
    else Operation.code view ⟨view.cid⟩ (.connect (requestBy kind view).strategy.connect)) ++
    milestones ⟨view.cid⟩ (if view.flag "use_existing_connection" then
      Operation.code view ⟨view.cid⟩ .reuse else []) = _
  rw [report, List.append_nil]
  by_cases shared : Mode.select view = .shared
  · have pooling : (requestBy kind view).strategy.acquireShared =
        [.bind (Names.sharedConnectionName ⟨view.cid⟩)
          (.operand (Strategy.sharedName ⟨kind, view, ⟨view.cid⟩⟩)), acquisition kind view] := by
      simp only [acquisition, shared]
      rfl
    have naming (e : Expr) : (Statement.bind (Names.sharedConnectionName ⟨view.cid⟩) e).isMilestone
        ⟨view.cid⟩ = false :=
      Statement.isMilestone_bind_of_ne e (by simp [Names.sharedConnectionName])
    simp only [if_pos shared, pooling, milestones_append, milestones_shareLog,
      milestones_ofStatements, List.filter_cons, naming, acquired]
    rfl
  · have direct : Mode.select view = .direct := by
      cases selected : Mode.select view with
      | direct => rfl
      | shared => exact absurd selected shared
      | served => exact absurd selected notServed
    have connecting : (requestBy kind view).strategy.connect = acquisition kind view := by
      simp only [acquisition, direct]
      rfl
    simp [if_neg shared, connecting, acquired]

theorem milestones_autoCommitSet :
    milestones ⟨view.cid⟩ ((requestBy kind view).code .autoCommitSet) =
      (Strategy.setAutocommit? ⟨kind, view, ⟨view.cid⟩⟩ (view.flag "auto_commit")).toList := by
  simp only [Request.code_eq]
  split
  · rename_i kept
    have kept : Strategy.setAutocommit? ⟨kind, view, ⟨view.cid⟩⟩ (view.flag "auto_commit") =
        none := kept
    rw [kept]
    rfl
  · rename_i setting told
    have told : Strategy.setAutocommit? ⟨kind, view, ⟨view.cid⟩⟩ (view.flag "auto_commit") =
        some setting := told
    obtain rfl := Strategy.eq_setAutocommit told
    rw [told, requestBy_names, milestones_block rfl]
    simp [Operation.code, debug]

theorem milestones_lookupServed (served : Mode.select view = .served) :
    milestones ⟨view.cid⟩ (requestBy kind view).lookupServed = [acquisition kind view] := by
  have refusal (header : Statement) (name : Local) (opens : header.isHeader = true) :
      milestones ⟨view.cid⟩ (Code.block header (ofStatements [.raiseUnserved name])) = [] := by
    rw [milestones_block opens, milestones_ofStatements]
    rfl
  rw [Request.lookupServed, milestones_append, milestones_append, refusal _ _ rfl]
  simp [acquisition, served, Names.dataSources, Names.dsAlias, Names.conn, Names.url]

/-- The steps of a route say what they are expected to, and nothing else of weight. -/
theorem milestones_code {state : State} (onRoute : state ∈ (Mode.select view).route) :
    milestones ⟨view.cid⟩ ((requestBy kind view).code state) = stepMilestones kind view state := by
  cases state with
  | init => simp [Request.code_eq, stepMilestones]
  | driverLoaded =>
    simp [Request.code_eq, requestBy, stepMilestones, Operation.code, debug, Strategy.loadClass,
      Names.conn, Names.url, Names.driver, Names.driverClass]
  | urlBuilt =>
    simp only [Request.code_eq, ofStatements_append, milestones_append, milestones_credentials]
    simpa [requestBy, stepMilestones] using milestones_buildUrl kind view
  | connected =>
    have notServed : Mode.select view ≠ .served := by
      intro served
      rw [served] at onRoute
      exact absurd onRoute (by decide)
    rw [milestones_connected kind view notServed, stepMilestones, if_neg notServed]
  | autoCommitSet => exact milestones_autoCommitSet kind view
  | registered =>
    have publishing : milestones ⟨view.cid⟩ (ofStatements (registration ⟨view.cid⟩)) =
        [.publish (Role.conn.key view.cid) (Names.conn ⟨view.cid⟩),
          .publish (Role.url.key view.cid) (Names.url ⟨view.cid⟩)] := by
      simp [registration]
    rw [Request.code_eq, milestones_append, requestBy_names, publishing, stepMilestones,
      requestBy_mode]
    by_cases served : Mode.select view = .served
    · rw [if_pos served, if_pos served, milestones_lookupServed kind view served]
    · rw [if_neg served, if_neg served, milestones_nil]
  | done => rfl

/-- The milestones of a whole route. A served connection is published as soon as it is there, any
other one not before it has been told how to commit. -/
theorem milestones_route :
    milestones ⟨view.cid⟩ ((Mode.select view).route.flatMap (requestBy kind view).code) =
      stepMilestones kind view .init ++
        if Mode.select view = .served then
          stepMilestones kind view .registered ++ stepMilestones kind view .autoCommitSet
        else stepMilestones kind view .urlBuilt ++ stepMilestones kind view .connected ++
          stepMilestones kind view .autoCommitSet ++ stepMilestones kind view .registered := by
  have each : ∀ steps : List State, (∀ state ∈ steps, state ∈ (Mode.select view).route) →
      milestones ⟨view.cid⟩ (steps.flatMap (requestBy kind view).code) =
        steps.flatMap (stepMilestones kind view) := by
    intro steps onRoute
    induction steps with
    | nil => rfl
    | cons state rest ih =>
      obtain ⟨first, later⟩ := List.forall_mem_cons.mp onRoute
      rw [List.flatMap_cons, List.flatMap_cons, milestones_append,
        milestones_code kind view first, ih later]
  rw [each _ fun _ member => member]
  cases selected : Mode.select view <;> simp [Mode.route, stepMilestones]

end Steps

end Stagewright.Connection
