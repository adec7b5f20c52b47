import Stagewright.Proofs.Generation.Reading
import Stagewright.Proofs.Generation.Vocabulary
import Stagewright.Proofs.Text.Gaps

/-!
The gaps in the messages of generated code. The words of a message ask for the arguments that come
with it; only the label of a connection may ask for more, in the one message that has both a label
and an argument.
-/

namespace Stagewright

open Text

namespace Lifecycle

/-- The label of a connection asks for its own arguments before those of what follows. -/
theorem asks?_connectionLabel (view : View) (back : String) :
    asks? (connectionLabel view ++ back) =
      (asks? (connectionLabel view)).bind fun count => (asks? back).map (count + ·) := by
  simp only [connectionLabel]
  split
  · have blank : asks? " " = some 0 := by decide
    have closing : "' " = "'" ++ " " := by decide
    have label := asks?_quoted (view.trimmed "connection") " "
    have message := asks?_quoted (view.trimmed "connection") (" " ++ back)
    rw [blank] at label
    rw [asks?_append blank] at message
    simp only [closing, String.append_assoc] at label message ⊢
    rw [label, message]
    cases asks? ("'" ++ (view.trimmed "connection" ++ "'")) <;> simp
  · have empty : asks? "" = some 0 := by decide
    rw [asks?_append empty, empty]
    rfl

end Lifecycle

namespace Code

open Lifecycle

/-- A message with arguments asks for as many as it has. Where it tells how many records a stage is
about to commit, the label of the connection may ask for more. -/
def Statement.Gapped (view : View) (counts : Prop) : Statement → Prop
  | .log _ message args =>
    args = [] ∨ asks? message = some args.length ∨
      counts ∧ args = [.read (Names.commitCounter ⟨view.cid⟩)] ∧
        asks? message = (asks? (connectionLabel view)).map (· + 1)
  | _ => True

end Code

namespace Lifecycle

open Code

/-- What an operation is given from outside has to be in order for its code to be. -/
def Operation.Fits (view : View) (counts : Prop) : Operation → Prop
  | .log _ text args => args = [] ∨ asks? text = some args.length
  | .connect statement | .autoCommit _ statement => statement.Gapped view counts
  | .effect .commit => view.logEnabled = true → dataAction view ≠ "" → counts
  | _ => True

theorem effectBracket_counting {view : View} {names : Names} (counted : dataAction view ≠ "") :
    effectBracket view names .commit =
      ⟨"Connection " ++ connectionLabel view ++ "starting to commit %s records.",
        [.read names.commitCounter],
        "Connection " ++ connectionLabel view ++ "commit has succeeded."⟩ :=
  if_pos counted

section Operations

variable {view : View} {counts : Prop}

theorem message_each {level text : String} {args : List Expr}
    (gapped : view.logEnabled = true →
      (Statement.log level (view.cid ++ " - " ++ text) args).Gapped view counts) :
    Each (Statement.Gapped view counts) (message view level text args) :=
  .ite (fun logged => .cons (gapped logged) .nil) fun _ => .nil

theorem message_silent {level text : String} :
    Each (Statement.Gapped view counts) (message view level text []) :=
  message_each fun _ => .inl rfl

variable (plain : '%' ∉ view.cid.toList)

include plain

/-- The name of the stage in front of a message asks for nothing. -/
theorem asks?_named (text : String) : asks? (view.cid ++ " - " ++ text) = asks? text := by
  have named : asks? (view.cid ++ " - ") = some 0 := by
    rw [asks?_append (asks?_plain plain)]
    rfl
  rw [asks?_append named]
  simp

theorem message_gapped {level text : String} {args : List Expr}
    (fits : asks? text = some args.length) :
    Each (Statement.Gapped view counts) (message view level text args) := by
  refine message_each fun _ => .inr (.inl ?_)
  rw [asks?_named plain, fits]

theorem note_gapped (names : Names) (n : Note) :
    Each (Statement.Gapped view counts) (debug view n.message (n.arguments view names)) := by
  refine message_gapped plain ?_
  cases n with
  | connecting withUser => cases withUser <;> rfl
  | retrievingRecord counted => cases counted <;> rfl
  | _ => rfl

/-- The one message that has both a label and an argument. -/
theorem asks?_counting :
    asks? (view.cid ++ " - " ++
        ("Connection " ++ connectionLabel view ++ "starting to commit %s records.")) =
      (asks? (connectionLabel view)).map (· + 1) := by
  have opening : asks? "Connection " = some 0 := rfl
  have closing : asks? "starting to commit %s records." = some 1 := rfl
  rw [asks?_named plain, String.append_assoc, asks?_append opening, asks?_connectionLabel, closing]
  cases asks? (connectionLabel view) <;> simp

theorem commit_gapped (fits : view.logEnabled = true → dataAction view ≠ "" → counts) :
    Each (Statement.Gapped view counts)
      (Operation.code view ⟨view.cid⟩ (.effect .commit)) := by
  have opening : Each (Statement.Gapped view counts)
      (debug view (effectBracket view ⟨view.cid⟩ .commit).opening
        (effectBracket view ⟨view.cid⟩ .commit).openingArgs) := by
    by_cases counted : dataAction view ≠ ""
    · rw [effectBracket_counting counted]
      exact message_each fun logged =>
        .inr (.inr ⟨fits logged counted, rfl, asks?_counting plain⟩)
    · have bracket : effectBracket view ⟨view.cid⟩ .commit =
          ⟨"Connection " ++ connectionLabel view ++ "starting to commit.", [],
            "Connection " ++ connectionLabel view ++ "commit has succeeded."⟩ := if_neg counted
      rw [bracket]
      exact message_silent
  exact .append (.append opening (.cons trivial .nil)) message_silent

/-- Every operation fills the gaps of the messages it writes. -/
theorem Operation.code_gapped {operation : Operation} (fits : operation.Fits view counts) :
    Each (Statement.Gapped view counts) (operation.code view ⟨view.cid⟩) := by
  cases operation with
  | log level text args =>
    rcases fits with rfl | fits
    · exact message_silent
    · exact message_gapped plain fits
  | note n => exact note_gapped plain _ n
  | connect statement =>
    exact .append (.append (note_gapped plain _ _) (.cons fits .nil)) (note_gapped plain _ _)
  | shareLog => exact .ite (fun _ => .cons trivial .nil) fun _ => .nil
  | reuse =>
    refine .ite (fun _ => ?_) fun _ => .nil
    refine .block trivial (.append (.cons trivial .nil) (.block trivial ?_))
    exact .ite (fun _ => message_silent) fun _ => message_gapped plain rfl
  | autoCommit flag statement => exact .append message_silent (.cons fits .nil)
  | effect e =>
    cases e with
    | commit => exact commit_gapped plain fits
    | rollback => exact .append (.append message_silent (.cons trivial .nil)) message_silent
    | close => exact .append (.append message_silent (.cons trivial .nil)) message_silent
  | executeBatch mode =>
    have batch : Each (Statement.Gapped view counts) (batchCode view ⟨view.cid⟩ mode) := by
      cases mode with
      | fireAndForget => exact .cons trivial .nil
      | counted => exact .append (.cons trivial .nil) (.block trivial (.cons trivial .nil))
    refine .ite (fun _ => ?_) fun _ => batch
    exact .append (.append message_silent batch) message_silent

end Operations

end Lifecycle

namespace Code

open Lifecycle

/-- What is in order without a log is no message. -/
theorem Statement.Allowed.gapped {view : View} {counts : Prop} {published : List (String × Local)}
    {statement : Statement} (allowed : statement.Allowed false published) :
    statement.Gapped view counts := by
  cases statement with
  | log level message args => exact absurd allowed (by simp [Allowed])
  | _ => trivial

/-- Every message of the code that has arguments asks for as many as it has. -/
def Filled (code : Code) : Prop :=
  ∀ line ∈ code, ∀ level message args, line.statement = .log level message args → args ≠ [] →
    asks? message = some args.length

end Code

namespace Generation

open Code Lifecycle Connection

/-- Whether a stage tells how many records it is about to commit. -/
def TellsCount (kind : StageKind) (view : View) : Prop :=
  view.logEnabled = true ∧ kind = .commit ∧ dataAction view ≠ ""

section Stages

variable {view : View} (plain : '%' ∉ view.cid.toList)

include plain

theorem request_gapped {counts : Prop} (state : State) :
    Each (Statement.Gapped view counts) ((request view).code state) := by
  rw [Request.code_eq]
  have unlogged {code : Code} (allowed : Each (Statement.Allowed false []) code) :
      Each (Statement.Gapped view counts) code := fun line member => (allowed line member).gapped
  cases state with
  | init => exact .cons trivial (.cons trivial .nil)
  | driverLoaded =>
    exact .append (.cons trivial (.cons trivial .nil)) (note_gapped plain _ .driverClass)
  | urlBuilt =>
    simp only [ofStatements_append]
    exact unlogged (.append (Strategy.buildUrl_allowed _) (Credentials.statements_allowed _))
  | connected =>
    refine .append (.ite (fun _ => ?_) fun _ => ?_) (.ite (fun _ => ?_) fun _ => .nil)
    · have share : Each (Statement.Gapped view counts)
          (Operation.code view ⟨view.cid⟩ .shareLog) := Operation.code_gapped plain trivial
      exact .append share (.cons trivial (.cons trivial .nil))
    · exact Operation.code_gapped plain trivial
    · have reuse : Each (Statement.Gapped view counts)
          (Operation.code view ⟨view.cid⟩ .reuse) := Operation.code_gapped plain trivial
      exact reuse
  | autoCommitSet =>
    dsimp only
    split
    · exact .nil
    · rename_i setting chosen
      rw [Strategy.eq_setAutocommit chosen]
      exact .block trivial (Operation.code_gapped plain trivial)
  | registered =>
    refine .append (.ite (fun _ => ?_) fun _ => .nil) ?_
    · exact .append (.append (.cons trivial (.cons trivial .nil)) (.block trivial
        (.cons trivial .nil))) (.cons trivial .nil)
    · exact .cons trivial (.cons trivial (.cons trivial (.cons trivial .nil)))
  | done => exact .nil

theorem effectCode_gapped {counts : Prop} {e : Effect}
    (fits : (Operation.effect e).Fits view counts) :
    Each (Statement.Gapped view counts) (effectCode view ⟨view.cid⟩ e) := by
  have closing : Each (Statement.Gapped view counts)
      (Operation.code view ⟨view.cid⟩ (.effect .close)) := Operation.code_gapped plain trivial
  have reuse : Each (Statement.Gapped view counts) (Operation.code view ⟨view.cid⟩ .reuse) :=
    Operation.code_gapped plain trivial
  rw [effectCode_eq]
  refine .append (.append (.cons trivial .nil) reuse) (.block trivial ?_)
  refine .append (.append (.ite (fun _ => .cons trivial .nil) fun _ => .nil) ?_) ?_
  · exact Operation.code_gapped plain fits
  · exact .ite (fun _ => closing) fun _ => .nil

/-- The messages of a stage have their gaps filled, apart from the one that tells a count. -/
theorem stageCode_gapped (kind : StageKind) :
    Each (Statement.Gapped view (TellsCount kind view)) (stageCode kind view) := by
  cases kind with
  | connection => exact .flatMap fun state _ => request_gapped plain state
  | commit => exact effectCode_gapped plain fun logged counted => ⟨logged, rfl, counted⟩
  | rollback => exact effectCode_gapped plain trivial
  | close => exact effectCode_gapped plain trivial

omit plain in
/-- A stage that tells a count does so in its code. -/
theorem counting_mem {kind : StageKind} (tells : TellsCount kind view) :
    ∃ line ∈ stageCode kind view, line.statement = .log "debug"
      (view.cid ++ " - " ++
        ("Connection " ++ connectionLabel view ++ "starting to commit %s records."))
      [.read (Names.commitCounter ⟨view.cid⟩)] := by
  obtain ⟨logged, rfl, counted⟩ := tells
  have opening : (⟨0, .log "debug" (view.cid ++ " - " ++
      ("Connection " ++ connectionLabel view ++ "starting to commit %s records."))
      [.read (Names.commitCounter ⟨view.cid⟩)]⟩ : Line) ∈
      Operation.code view ⟨view.cid⟩ (.effect .commit) := by
    refine List.mem_append_left _ (List.mem_append_left _ ?_)
    rw [effectBracket_counting counted, debug, message, if_pos logged]
    exact List.mem_singleton_self _
  rw [stageCode, effectCode_eq]
  exact ⟨_, List.mem_append_right _ (List.mem_cons_of_mem _ (List.mem_map_of_mem
    (List.mem_append_left _ (List.mem_append_right _ opening)))), rfl⟩

theorem stageCode_filled_iff (kind : StageKind) :
    Filled (stageCode kind view) ↔
      (TellsCount kind view → asks? (connectionLabel view) = some 0) := by
  constructor
  · intro filled tells
    obtain ⟨line, member, counting⟩ := counting_mem tells
    have asks := filled line member _ _ _ counting (by simp)
    rw [asks?_counting plain] at asks
    simpa using asks
  · intro label line member level message args logs some
    have gapped := stageCode_gapped plain kind line member
    rw [logs] at gapped
    rcases gapped with none | asks | ⟨tells, rfl, asks⟩
    · exact absurd none some
    · exact asks
    · rw [asks, label tells]
      rfl

end Stages

/-- In the program of a job that has been read, every message with arguments asks for as many as it
has, apart from the one that tells how many records a stage is about to commit: that one asks for
what the label of the connection asks for besides. So the messages of a stage are filled exactly if
the stage tells no count, or has a label that asks for nothing. -/
theorem read_job_filled {document overrides environment : Mapping} {source : Option String}
    {job : Job} (read : (Job.read document overrides environment source).1 = .ok job) :
    ((∃ program, (generateProgram .standard job).1 = .ok program) ↔ WritesOut job) ∧
      ∀ program, (generateProgram .standard job).1 = .ok program →
        ∀ (i : Nat) (stage : Stage), job.stages[i]? = some stage → ∃ kind fragment,
          StageKind.ofName? stage.kind = some kind ∧ program[i]? = some fragment ∧
          let view : View := ⟨stage, job.settings⟩
          Each (Statement.Gapped view (TellsCount kind view)) fragment.code ∧
          (Filled fragment.code ↔
            (TellsCount kind view → asks? (connectionLabel view) = some 0)) := by
  have accepted := Job.read_accepted read
  refine ⟨exists_generated_iff accepted, fun program made i stage place => ?_⟩
  have generates := (generates_of_ok accepted made).2
  have held := List.mem_of_getElem? place
  obtain ⟨kind, known⟩ := Option.isSome_iff_exists.mp (accepted.known stage held)
  have stands := (generates.getElem? i _).mpr ⟨stage, kind, place, known, rfl⟩
  have plain : '%' ∉ (View.cid ⟨stage, job.settings⟩).toList :=
    isIdentifier_not_mem (accepted.identifiers stage held) (by decide) (by decide)
  exact ⟨kind, _, known, stands, stageCode_gapped plain kind, stageCode_filled_iff plain kind⟩

/-- A document of one stage that commits the records it has inserted by way of a connection. -/
def countingDocument (connection : String) : Mapping :=
  [(.text "job", .text "j"), (.text "globals", .map [(.text "log_enabled", .bool true)]),
    (.text "stages", .list [
      .map [(.text "cid", .text "c"), (.text "kind", .text "commit"),
        (.text "params", .map [(.text "connection", .text connection),
          (.text "data_action", .text "INSERT")])]])]

def countingStage (connection : String) : Stage where
  cid := "c"
  kind := "commit"
  params := StageKind.commit.defaults.update
    [(.text "connection", .text connection), (.text "data_action", .text "INSERT")]

def countingJob (connection : String) : Job where
  name := "j"
  settings := { logEnabled := true }
  stages := [countingStage connection]

/-- A label without a percent sign leaves the message of the count as it is. -/
theorem counting_job_filled :
    (Job.read (countingDocument "a") [] [] none).1 = .ok (countingJob "a") ∧
      ∃ program fragment, (generateProgram .standard (countingJob "a")).1 = .ok program ∧
        program[0]? = some fragment ∧ TellsCount .commit ⟨countingStage "a", ⟨true, []⟩⟩ ∧
        Filled fragment.code := by
  have read : (Job.read (countingDocument "a") [] [] none).1 = .ok (countingJob "a") := rfl
  obtain ⟨generated, filled⟩ := read_job_filled read
  obtain ⟨program, made⟩ := generated.mpr (writesOut_of_none_refused (by decide +kernel))
  obtain ⟨kind, fragment, -, stands, -, whole⟩ := filled program made 0 _ rfl
  have label : asks? (connectionLabel ⟨countingStage "a", ⟨true, []⟩⟩) = some 0 := by
    decide +kernel
  exact ⟨read, program, fragment, made, stands, ⟨rfl, rfl, by decide +kernel⟩,
    whole.mpr fun _ => label⟩

/-- A label with a gap of its own asks for an argument that the message does not come with. -/
theorem gap_in_label_not_filled :
    (Job.read (countingDocument "a%sb") [] [] none).1 = .ok (countingJob "a%sb") ∧
      ∃ program fragment line, (generateProgram .standard (countingJob "a%sb")).1 = .ok program ∧
        program[0]? = some fragment ∧ line ∈ fragment.code ∧
        line.statement = .log "debug" "c - Connection 'a%sb' starting to commit %s records."
          [.read (Names.commitCounter ⟨"c"⟩)] ∧
        asks? "c - Connection 'a%sb' starting to commit %s records." = some 2 := by
  have read : (Job.read (countingDocument "a%sb") [] [] none).1 = .ok (countingJob "a%sb") := rfl
  have accepted := Job.read_accepted read
  obtain ⟨program, made⟩ := (exists_generated_iff accepted).mpr
    (writesOut_of_none_refused (by decide +kernel))
  have stands := ((generates_of_ok accepted made).2.getElem? 0 _).mpr
    ⟨countingStage "a%sb", .commit, rfl, rfl, rfl⟩
  have tells : TellsCount .commit ⟨countingStage "a%sb", ⟨true, []⟩⟩ :=
    ⟨rfl, rfl, by decide +kernel⟩
  have label : connectionLabel ⟨countingStage "a%sb", ⟨true, []⟩⟩ = "'a%sb' " := by
    decide +kernel
  obtain ⟨line, member, counting⟩ := counting_mem tells
  rw [label] at counting
  exact ⟨read, program, _, line, made, stands, member, counting, by decide⟩

end Generation

end Stagewright
