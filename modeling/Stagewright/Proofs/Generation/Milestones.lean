import Stagewright.Proofs.Connection.Milestones
import Stagewright.Proofs.Generation.Opening
import Stagewright.Proofs.Generation.Published

/-!
What a stage publishes is what it has acquired. The milestones on the way to a connection show in
the text of its lines, each of them once and in one order.
-/

namespace Stagewright.Code

theorem Expr.quoted_mem_pieces {e : Expr} {key : String} (quoted : .quoted key ∈ e.pieces) :
    e.lookup? = some key := by
  have operand (o : Operand) : Piece.quoted key ≠ o.piece := by cases o <;> simp [Operand.piece]
  cases e with
  | operand o => exact absurd (List.mem_singleton.mp quoted) (operand o)
  | pooled driverClass url user password name => simp [pieces, listed, operand] at quoted
  | connect driver url user password => simp [pieces, listed] at quoted
  | _ => simp_all [pieces, lookup?]

theorem not_quoted_in_arguments {args : List Expr} {key : String}
    (unbound : ∀ e ∈ args, e.lookup? = none) : .quoted key ∉ argumentPieces args := by
  intro quoted
  obtain ⟨e, held, inside⟩ := List.mem_flatMap.mp quoted
  rcases List.mem_cons.mp inside with comma | piece
  · exact absurd comma (by simp)
  · have found := Expr.quoted_mem_pieces piece
    rw [unbound e held] at found
    exact absurd found (by simp)

/-- The statement finds out a number of records. -/
def Statement.counts : Statement → Bool
  | .bind _ (.recordCount _) => true
  | _ => false

theorem literal_begins (s : String) :
    ∃ c ∈ ['\'', '"'], (Text.literal s).toList.head? = some c := by
  refine ⟨Text.quoteFor s.toList, ?_, by simp [Text.literal, Text.literalChars]⟩
  unfold Text.quoteFor
  split <;> simp

section Keys

variable {view : View} {logged : Bool} {s : Statement} {role : Role}

theorem Role.key_begins (hidden : role ∈ [Role.user, .pass]) (cid : String) :
    ∃ c ∈ ['u', 'p'], (role.key cid).toList.head? = some c := by
  rcases List.mem_pair.mp hidden with rfl | rfl
  · exact ⟨'u', by simp, by simp [key, stem]⟩
  · exact ⟨'p', by simp, by simp [key, stem]⟩

theorem Role.key_ne {other : Role} {own cid : String} (hidden : role ∈ [Role.user, .pass])
    (told : other ∈ [Role.conn, .url]) : role.key cid ≠ other.key own := by
  intro same
  have chars := congrArg String.toList same
  rcases List.mem_pair.mp hidden with rfl | rfl <;> rcases List.mem_pair.mp told with rfl | rfl <;>
    simp [key, stem] at chars

/-- The keys of the user and of the password stand in comments only. -/
theorem isComment_of_quoted (from_ : s.From view ⟨view.cid⟩)
    (allowed : s.Allowed logged (Connection.published ⟨view.cid⟩)) (uncounted : s.counts = false)
    (hidden : role ∈ [Role.user, .pass]) (quoted : .quoted (role.key view.cid) ∈ s.pieces) :
    s.isComment = true := by
  cases s with
  | withhold key x => rfl
  | bind x e =>
    have found := Expr.quoted_mem_pieces (by simpa [Statement.pieces] using quoted)
    cases e with
    | published key =>
      obtain rfl := Option.some.inj found
      exact absurd from_.2 (Role.key_ne hidden (by simp))
    | recordCount key => exact Bool.noConfusion uncounted
    | _ => exact absurd found (by simp [Expr.lookup?])
  | add x e =>
    have found := Expr.quoted_mem_pieces (by simpa [Statement.pieces] using quoted)
    rw [from_.2.2] at found
    exact absurd found (by simp)
  | log level message args =>
    -- the arguments hold no keys, and a message is quoted while keys begin with a letter
    have literal : role.key view.cid = Text.literal message := by
      have apart : .quoted (role.key view.cid) ∉ argumentPieces args :=
        not_quoted_in_arguments fun e held => (from_.2 e held).2
      simpa [Statement.pieces, apart] using quoted
    obtain ⟨c, letter, begins⟩ := Role.key_begins hidden view.cid
    obtain ⟨d, quote, opens⟩ := literal_begins message
    rw [literal, opens] at begins
    obtain rfl := Option.some.inj begins
    rcases List.mem_pair.mp letter with rfl | rfl <;> exact absurd quote (by decide)
  | initPoolLog label =>
    have same : role.key view.cid = view.cid := by
      rw [show label = view.cid from from_] at quoted
      simpa [Statement.pieces] using quoted
    -- no cid is its own key
    have longer : (role.key view.cid).toList.length =
        role.stem.toList.length + (view.cid.toList.length + 1) := by
      simp [Role.key]
    rw [same] at longer
    omega
  | publish key x =>
    obtain rfl : role.key view.cid = key := by simpa [Statement.pieces] using quoted
    have member : (role.key view.cid, x) ∈ Connection.published ⟨view.cid⟩ := allowed
    rcases List.mem_pair.mp member with conn | url
    · exact absurd (Prod.mk.inj conn).1 (Role.key_ne hidden (by simp))
    · exact absurd (Prod.mk.inj url).1 (Role.key_ne hidden (by simp))
  | verbatim source => exact from_.elim
  | _ => simp [Statement.pieces] at quoted

end Keys

end Stagewright.Code

namespace Stagewright.Connection

open Code Lifecycle

section Uncounted

variable {view : View} {names : Names}

theorem uncounted_message (level text : String) (args : List Expr) :
    Each (fun s => s.counts = false) (message view level text args) :=
  .ite (fun _ => .cons rfl .nil) fun _ => .nil

theorem uncounted_reuse : Each (fun s => s.counts = false) (Operation.code view names .reuse) := by
  refine .ite (fun _ => .block rfl (.append (.cons rfl .nil) (.block rfl ?_))) fun _ => .nil
  exact .ite (fun _ => uncounted_message _ _ _) fun _ => uncounted_message _ _ _

/-- Getting a connection has nothing to do with numbers of records. -/
theorem Request.uncounted_code (request : Request) (state : State) :
    Each (fun s => s.counts = false) (request.code state) := by
  rw [Request.code_eq]
  cases state with
  | init => exact .cons rfl (.cons rfl .nil)
  | driverLoaded => exact .append (.cons rfl (.cons rfl .nil)) (uncounted_message _ _ _)
  | urlBuilt =>
    have address : Each (fun s => s.counts = false)
        (ofStatements request.strategy.buildUrl?.toList) := by
      simp only [Strategy.buildUrl?]
      split
      · split
        · exact .nil
        · exact .cons rfl .nil
      · exact .cons rfl .nil
    simp only [ofStatements_append]
    refine .append address (.cons rfl ?_)
    simp only [Credentials.passwordBindings]
    split
    · exact .cons rfl .nil
    · exact .cons rfl (.cons rfl .nil)
    · exact .cons rfl (.cons rfl .nil)
  | connected =>
    refine .append (.ite (fun _ => ?shared) fun _ => ?direct)
      (.ite (fun _ => uncounted_reuse) fun _ => .nil)
    case shared =>
      exact .append (.ite (fun _ => .cons rfl .nil) fun _ => .nil) (.cons rfl (.cons rfl .nil))
    case direct =>
      exact .append (.append (uncounted_message _ _ _) (.cons rfl .nil)) (uncounted_message _ _ _)
  | autoCommitSet =>
    dsimp only
    split
    · exact .nil
    · rename_i setting chosen
      rw [Strategy.eq_setAutocommit chosen]
      exact .block rfl (.append (uncounted_message _ _ _) (.cons rfl .nil))
  | registered =>
    refine .append (.ite (fun _ => ?_) fun _ => .nil)
      (.cons rfl (.cons rfl (.cons rfl (.cons rfl .nil))))
    exact .append (.append (.cons rfl (.cons rfl .nil)) (.block rfl (.cons rfl .nil)))
      (.cons rfl .nil)
  | done => exact .nil

end Uncounted

/-- A full run of a planner that has been told its strategy. -/
theorem run_requestBy {kind : StrategyKind} {view : View}
    (fits : (requestBy kind view).excess? = none) : ∃ planner,
    (requestBy kind view).planner.run none = (.ok (), planner) ∧
      planner.plan.code = (Mode.select view).route.flatMap (requestBy kind view).code := by
  have opened : (requestBy kind view).planner.plan.closed = false := rfl
  rw [Planner.run_open rfl opened none fits, Planner.flush_open (by exact opened)]
  refine ⟨_, rfl, ?_⟩
  simp [Planner.after, Request.planner, Planner.route, Plan.start]

end Stagewright.Connection

namespace Stagewright.Generation

open Code Connection

/-- Whether a line begins with one of some words. -/
def beginsWithAny (words : List String) (line : String) : Bool :=
  words.any fun word => word.toList.isPrefixOf line.toList

/-- How lines begin that assign the connection of stage `cid`, its address or how it commits, and
those that publish something. -/
def milestoneWords (cid : String) : List String :=
  ["conn_" ++ cid ++ " = ", "url_" ++ cid ++ " = ", "conn_" ++ cid ++ ".autocommit = ",
    "global_map["]

/-- The line that publishes the address of stage `owner`. -/
def addressLine (owner : String) : String := "global_map[\"url_" ++ owner ++ "\"] = url_" ++ owner

section Text

variable {view : View} {cid : String} {s : Statement}

theorem publish_url_text (owner : String) :
    (Statement.publish (Role.url.key owner) (Names.url ⟨owner⟩)).text = addressLine owner := by
  have written : (addressLine owner).toList =
      "global_map[\"url_".toList ++ owner.toList ++ "\"] = url_".toList ++ owner.toList := by
    unfold addressLine
    simp only [String.toList_append]
  refine String.toList_inj.mp ?_
  rw [toList_publish, written, Names.url_text]
  simp [Role.key, Role.stem]

theorem begins_assigns (from_ : s.From view ⟨cid⟩) {x : Local} (own : x.cid = cid)
    (single : x.slot ≠ .driver ∧ x.slot ≠ .driverClass) :
    beginsWithAny [x.text ++ " = "] s.text = s.assigns x := by
  rw [Bool.eq_iff_iff, beginsWithAny, List.any_cons, List.any_nil, Bool.or_false,
    List.isPrefixOf_iff_prefix, from_.binds_iff own single]
  constructor
  · rintro ⟨e, rfl⟩
    simp [Statement.assigns]
  · intro assigns
    cases s with
    | bind y e =>
      have same : y = x := by simpa [Statement.assigns] using assigns
      exact ⟨e, by rw [same]⟩
    | _ => exact absurd assigns (by simp [Statement.assigns])

theorem begins_sets (from_ : s.From view ⟨cid⟩) :
    beginsWithAny ["conn_" ++ cid ++ ".autocommit = "] s.text = s.sets (Names.conn ⟨cid⟩) := by
  rw [Bool.eq_iff_iff, beginsWithAny, List.any_cons, List.any_nil, Bool.or_false,
    List.isPrefixOf_iff_prefix, ← Names.conn_text, from_.sets_iff rfl (by simp [Names.conn])]
  constructor
  · rintro ⟨flag, rfl⟩
    simp [Statement.sets]
  · intro sets
    cases s with
    | setAutocommit y flag =>
      have same : y = Names.conn ⟨cid⟩ := by simpa [Statement.sets] using sets
      exact ⟨flag, by rw [same]⟩
    | _ => exact absurd sets (by simp [Statement.sets])

theorem begins_publication (from_ : s.From view ⟨cid⟩) :
    beginsWithAny ["global_map["] s.text = s.isPublication := by
  rw [Bool.eq_iff_iff, beginsWithAny, List.any_cons, List.any_nil, Bool.or_false,
    List.isPrefixOf_iff_prefix, from_.publishes_iff]
  constructor
  · rintro ⟨key, x, rfl⟩
    rfl
  · intro publishes
    cases s with
    | publish key x => exact ⟨key, x, rfl⟩
    | _ => exact absurd publishes (by simp [Statement.isPublication])

theorem text_cleared (x : Local) :
    (Statement.bind x (.operand .absent)).text = x.text ++ " = None" := by
  change x.text ++ " = " ++ "None" = _
  rw [String.append_assoc]
  rfl

theorem begins_of_prefix {word line : String} (rest : String) (text : line = word ++ rest) :
    beginsWithAny [word] line = true := by
  rw [beginsWithAny, List.any_cons, List.any_nil, Bool.or_false, List.isPrefixOf_iff_prefix, text,
    String.toList_append]
  exact List.prefix_append _ _

/-- What is a milestone shows in how its line begins. -/
theorem begins_milestone (from_ : s.From view ⟨cid⟩) :
    beginsWithAny (milestoneWords cid) s.text = s.isMilestone ⟨cid⟩ := by
  have conn := begins_assigns from_ (x := Names.conn ⟨cid⟩) rfl (by simp [Names.conn])
  have url := begins_assigns from_ (x := Names.url ⟨cid⟩) rfl (by simp [Names.url])
  rw [Names.conn_text] at conn
  rw [Names.url_text] at url
  rw [Statement.isMilestone, ← conn, ← url, ← begins_sets from_, ← begins_publication from_]
  simp [beginsWithAny, milestoneWords, Bool.or_assoc]

theorem filter_texts {words : List String} {chosen : Statement → Bool} {statements : List Statement}
    (same : ∀ s ∈ statements, beginsWithAny words s.text = chosen s) :
    (statements.map Statement.text).filter (beginsWithAny words) =
      (statements.filter chosen).map Statement.text := by
  rw [List.filter_map]
  exact congrArg _ (List.filter_congr same)

end Text

/-- What the lines of a plan tell about the connection of a stage. -/
structure PublishesOnce (kind : StrategyKind) (view : View) (code : Code) : Prop where
  /-- The connection is assigned twice: first nothing, and then what the mode acquires. -/
  assigned : (code.map (·.statement.text)).filter (beginsWithAny ["conn_" ++ view.cid ++ " = "]) =
    ["conn_" ++ view.cid ++ " = None", (acquisition kind view).text]
  /-- The connection and its address are published, each of them once and nothing else. -/
  published : (code.map (·.statement.text)).filter (beginsWithAny ["global_map["]) =
    [registrationLine view.cid, addressLine view.cid]
  /-- Whatever is acquired is published afterwards and not assigned again. What sets how the
  connection commits stands between the two, and after both where the connection is served. -/
  ordered : ∃ address setting : List String,
    address.length ≤ 1 ∧ (∀ line ∈ address, beginsWithAny ["url_" ++ view.cid ++ " = "] line) ∧
    setting.length ≤ 1 ∧
    (∀ line ∈ setting, beginsWithAny ["conn_" ++ view.cid ++ ".autocommit = "] line) ∧
    (code.map (·.statement.text)).filter (beginsWithAny (milestoneWords view.cid)) =
      ["conn_" ++ view.cid ++ " = None", "url_" ++ view.cid ++ " = None"] ++
        if Mode.select view = .served then
          [(acquisition kind view).text, registrationLine view.cid, addressLine view.cid] ++ setting
        else address ++ [(acquisition kind view).text] ++ setting ++
          [registrationLine view.cid, addressLine view.cid]
  /-- Outside of the expressions of the configuration the keys of the user and of the password
  stand in comments only. -/
  withheld : ∀ line ∈ code, ∀ role ∈ [Role.user, .pass],
    .quoted (role.key view.cid) ∈ line.statement.pieces →
      "# ".toList <+: line.statement.text.toList

section Story

variable {kind : StrategyKind} {view : View} {code : Code}

theorem filter_milestones {names : Names} {chosen : Statement → Bool}
    (weighty : ∀ s, chosen s = true → s.isMilestone names = true) (code : Code) :
    (code.map Line.statement).filter chosen = (milestones names code).filter chosen := by
  rw [milestones, List.filter_filter]
  refine List.filter_congr fun s _ => ?_
  cases picked : chosen s with
  | false => rfl
  | true => rw [weighty s picked, Bool.and_self]

theorem address_assigns : ∀ s ∈ stepMilestones kind view .urlBuilt,
    ∃ e, s = .bind (Names.url ⟨view.cid⟩) e := by
  intro s member
  have chosen := Option.mem_toList.mp member
  cases kind with
  | generic =>
    simp only [Strategy.buildUrl?] at chosen
    split at chosen
    · exact absurd chosen (by simp)
    · exact ⟨_, (Option.some.inj chosen).symm⟩
  | driverSpecified => exact ⟨_, (Option.some.inj chosen).symm⟩

theorem setting_sets : ∀ s ∈ stepMilestones kind view .autoCommitSet,
    ∃ flag, s = .setAutocommit (Names.conn ⟨view.cid⟩) flag := by
  intro s member
  exact ⟨_, Strategy.eq_setAutocommit (Option.mem_toList.mp member)⟩

theorem acquisition_assigns (kind : StrategyKind) (view : View) :
    ∃ e, acquisition kind view = .bind (Names.conn ⟨view.cid⟩) e := by
  unfold acquisition
  split <;> exact ⟨_, rfl⟩

variable (story : milestones ⟨view.cid⟩ code = stepMilestones kind view .init ++
  if Mode.select view = .served then
    stepMilestones kind view .registered ++ stepMilestones kind view .autoCommitSet
  else stepMilestones kind view .urlBuilt ++ stepMilestones kind view .connected ++
    stepMilestones kind view .autoCommitSet ++ stepMilestones kind view .registered)

include story

/-- Statements that neither build the address nor set how the connection commits are the same in
every mode. -/
theorem filter_of_story {chosen : Statement → Bool}
    (weighty : ∀ s, chosen s = true → s.isMilestone ⟨view.cid⟩ = true)
    (noAddress : ∀ e, chosen (.bind (Names.url ⟨view.cid⟩) e) = false)
    (noSetting : ∀ flag, chosen (.setAutocommit (Names.conn ⟨view.cid⟩) flag) = false) :
    (code.map Line.statement).filter chosen =
      [.bind (Names.conn ⟨view.cid⟩) (.operand .absent), acquisition kind view,
        .publish (Role.conn.key view.cid) (Names.conn ⟨view.cid⟩),
        .publish (Role.url.key view.cid) (Names.url ⟨view.cid⟩)].filter chosen := by
  have cleared : (stepMilestones kind view .init).filter chosen =
      [.bind (Names.conn ⟨view.cid⟩) (.operand .absent)].filter chosen := by
    simp [stepMilestones, List.filter_cons, noAddress]
  have address : (stepMilestones kind view .urlBuilt).filter chosen = [] := by
    refine List.filter_eq_nil_iff.mpr fun s member => ?_
    obtain ⟨e, rfl⟩ := address_assigns s member
    simp [noAddress]
  have setting : (stepMilestones kind view .autoCommitSet).filter chosen = [] := by
    refine List.filter_eq_nil_iff.mpr fun s member => ?_
    obtain ⟨flag, rfl⟩ := setting_sets s member
    simp [noSetting]
  have split : ∀ a b c d : Statement, [a, b, c, d] = [a] ++ ([b] ++ [c, d]) := fun _ _ _ _ => rfl
  rw [filter_milestones weighty, story, split, List.filter_append, List.filter_append, cleared]
  by_cases served : Mode.select view = .served
  · rw [if_pos served, List.filter_append, setting, List.append_nil, stepMilestones, if_pos served]
  · rw [if_neg served, List.filter_append, List.filter_append, List.filter_append, address, setting,
      List.nil_append, List.append_nil]
    simp only [stepMilestones, if_neg served, List.nil_append, List.filter_append]

theorem assigns_of_story :
    (code.map Line.statement).filter (Statement.assigns (Names.conn ⟨view.cid⟩)) =
      [.bind (Names.conn ⟨view.cid⟩) (.operand .absent), acquisition kind view] := by
  obtain ⟨e, acquired⟩ := acquisition_assigns kind view
  have weighty (s : Statement) (assigns : s.assigns (Names.conn ⟨view.cid⟩) = true) :
      s.isMilestone ⟨view.cid⟩ = true := by
    simp [Statement.isMilestone, assigns]
  rw [filter_of_story story weighty (by simp [Statement.assigns, Names.conn, Names.url])
    fun _ => rfl]
  simp [Statement.assigns, acquired]

theorem publications_of_story :
    (code.map Line.statement).filter Statement.isPublication =
      [.publish (Role.conn.key view.cid) (Names.conn ⟨view.cid⟩),
        .publish (Role.url.key view.cid) (Names.url ⟨view.cid⟩)] := by
  obtain ⟨e, acquired⟩ := acquisition_assigns kind view
  have weighty (s : Statement) (publishes : s.isPublication = true) :
      s.isMilestone ⟨view.cid⟩ = true := by
    simp [Statement.isMilestone, publishes]
  rw [filter_of_story story weighty (fun _ => rfl) fun _ => rfl]
  simp [Statement.isPublication, acquired]

theorem texts_of_story :
    ∃ address setting : List String,
      address.length ≤ 1 ∧ (∀ line ∈ address, beginsWithAny ["url_" ++ view.cid ++ " = "] line) ∧
      setting.length ≤ 1 ∧
      (∀ line ∈ setting, beginsWithAny ["conn_" ++ view.cid ++ ".autocommit = "] line) ∧
      (milestones ⟨view.cid⟩ code).map Statement.text =
        ["conn_" ++ view.cid ++ " = None", "url_" ++ view.cid ++ " = None"] ++
          if Mode.select view = .served then
            [(acquisition kind view).text, registrationLine view.cid, addressLine view.cid] ++
              setting
          else address ++ [(acquisition kind view).text] ++ setting ++
            [registrationLine view.cid, addressLine view.cid] := by
  have atMostOne (chosen : Option Statement) : (chosen.toList.map Statement.text).length ≤ 1 := by
    cases chosen <;> simp
  have clearing : (stepMilestones kind view .init).map Statement.text =
      ["conn_" ++ view.cid ++ " = None", "url_" ++ view.cid ++ " = None"] := by
    simp [stepMilestones, text_cleared, Names.conn_text, Names.url_text]
  have publishing : (stepMilestones kind view .registered).map Statement.text =
      (if Mode.select view = .served then [(acquisition kind view).text] else []) ++
        [registrationLine view.cid, addressLine view.cid] := by
    rw [← publish_conn_text, ← publish_url_text, stepMilestones, List.map_append]
    by_cases served : Mode.select view = .served <;> simp [served]
  refine ⟨(stepMilestones kind view .urlBuilt).map Statement.text,
    (stepMilestones kind view .autoCommitSet).map Statement.text, atMostOne _, ?_, atMostOne _, ?_,
    ?_⟩
  · intro line member
    obtain ⟨s, held, rfl⟩ := List.mem_map.mp member
    obtain ⟨e, rfl⟩ := address_assigns s held
    rw [← Names.url_text]
    exact begins_of_prefix e.text rfl
  · intro line member
    obtain ⟨s, held, rfl⟩ := List.mem_map.mp member
    obtain ⟨flag, rfl⟩ := setting_sets s held
    rw [← Names.conn_text]
    exact begins_of_prefix (boolText flag) rfl
  · rw [story, List.map_append, clearing]
    by_cases served : Mode.select view = .served
    · rw [if_pos served, if_pos served, List.map_append, publishing, if_pos served]
      rfl
    · have connected : stepMilestones kind view .connected = [acquisition kind view] := by
        rw [stepMilestones, if_neg served]
      rw [if_neg served, if_neg served]
      simp only [List.map_append, publishing, if_neg served, connected, List.map_singleton,
        List.nil_append]

end Story

theorem publishesOnce_route (kind : StrategyKind) (view : View) :
    PublishesOnce kind view ((Mode.select view).route.flatMap (requestBy kind view).code) := by
  have story := milestones_route kind view
  have from_ : Each (Statement.From view ⟨view.cid⟩)
      ((Mode.select view).route.flatMap (requestBy kind view).code) :=
    .flatMap fun state _ => Request.code_from kind state
  have uncounted : Each (fun s => s.counts = false)
      ((Mode.select view).route.flatMap (requestBy kind view).code) :=
    .flatMap fun state _ => (requestBy kind view).uncounted_code state
  have allowed : Each (Statement.Allowed view.logEnabled (published ⟨view.cid⟩))
      ((Mode.select view).route.flatMap (requestBy kind view).code) :=
    .flatMap fun state _ => (requestBy kind view).code_allowed state
  generalize (Mode.select view).route.flatMap (requestBy kind view).code = code at *
  have texts : code.map (·.statement.text) = (code.map Line.statement).map Statement.text := by
    rw [List.map_map]
    rfl
  have theirs : ∀ s ∈ code.map Line.statement, s.From view ⟨view.cid⟩ := by
    intro s member
    obtain ⟨line, held, rfl⟩ := List.mem_map.mp member
    exact from_ line held
  refine ⟨?assigned, ?published, ?ordered, ?withheld⟩
  case assigned =>
    rw [texts, ← Names.conn_text, filter_texts fun s member =>
      begins_assigns (theirs s member) rfl (by simp [Names.conn]), assigns_of_story story,
      List.map_cons, List.map_singleton, text_cleared]
  case published =>
    rw [texts, filter_texts fun s member => begins_publication (theirs s member),
      publications_of_story story, List.map_cons, List.map_singleton, publish_conn_text,
      publish_url_text]
  case ordered =>
    rw [texts, filter_texts fun s member => begins_milestone (theirs s member)]
    exact texts_of_story story
  case withheld =>
    intro line member role hidden quoted
    have comment := isComment_of_quoted (from_ line member) (allowed line member)
      (uncounted line member) hidden quoted
    cases statement : line.statement with
    | withhold key x => exact Statement.begins_of_keyword rfl
    | _ => simp [statement, Statement.isComment] at comment

/-- What a stage publishes is what it has acquired, exactly once. A full run of the planner of a
connection, in every mode and with either strategy, assigns the connection and its address before
it publishes them and never afterwards. Stages that end the work on a connection publish nothing. -/
theorem published_as_acquired (view : View) :
    (∀ kind : StrategyKind, match (requestBy kind view).excess? with
      | some e => ((requestBy kind view).planner.run none).1 = .error (.excess e)
      | none => ∃ planner, (requestBy kind view).planner.run none = (.ok (), planner) ∧
          PublishesOnce kind view planner.plan.code) ∧
    ∀ kind : StageKind, kind ≠ .connection → Yields kind view fun fragment =>
      ∀ line ∈ fragment.code, beginsWithAny ["global_map["] line.statement.text = false := by
  constructor
  · intro kind
    cases large : (requestBy kind view).excess? with
    | some e => exact Planner.run_excess rfl rfl none large
    | none =>
      obtain ⟨planner, run, code⟩ := run_requestBy large
      exact ⟨planner, run, code ▸ publishesOnce_route kind view⟩
  · intro kind ending
    refine yields_of_fragment fun line member => ?_
    rw [begins_publication (stageCode_from kind view line member)]
    have allowed := stageCode_allowed kind view line member
    rw [publishedBy, if_neg ending] at allowed
    cases statement : line.statement with
    | publish key x =>
      rw [statement] at allowed
      exact absurd allowed List.not_mem_nil
    | _ => rfl

end Stagewright.Generation
