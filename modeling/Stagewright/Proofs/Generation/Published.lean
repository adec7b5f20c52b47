import Stagewright.Proofs.Generation.Vocabulary
import Stagewright.Proofs.Text.Identifier

/-!
What a stage publishes, told by the text of its lines. Whatever expressions the configuration holds,
a fragment publishes the connection of its own stage or none.
-/

namespace Stagewright.Connection

open Code

/-- The line that publishes the connection of stage `owner`. -/
def registrationLine (owner : String) : String :=
  "global_map[\"conn_" ++ owner ++ "\"] = conn_" ++ owner

/-- A line that publishes something under a key. -/
def Registers (key line : String) : Prop :=
  ("global_map[\"" ++ key ++ "\"] = ").toList <+: line.toList

/-- The line that finds the connection of stage `owner` for another stage. -/
def lookupLine (cid owner : String) : String :=
  "conn_" ++ cid ++ " = global_map.get(\"conn_" ++ owner ++ "\")"

theorem toList_registrationLine (owner : String) :
    (registrationLine owner).toList =
      "global_map[\"conn_".toList ++ owner.toList ++ "\"] = conn_".toList ++ owner.toList := by
  unfold registrationLine
  simp only [String.toList_append]

theorem registrationLine_inj {a b : String} (same : registrationLine a = registrationLine b) :
    a = b := by
  have chars := congrArg String.toList same
  simp only [toList_registrationLine, List.append_assoc, List.append_cancel_left_eq] at chars
  have size := congrArg List.length chars
  simp only [List.length_append] at size
  exact String.toList_inj.mp (List.append_inj_left chars (by omega))

theorem registrationLine_begins (owner : String) :
    (registrationLine owner).toList.head? = some 'g' := by
  rw [toList_registrationLine]
  simp

theorem toList_publish (key : String) (x : Local) :
    (Statement.publish key x).text.toList =
      "global_map[\"".toList ++ key.toList ++ "\"] = ".toList ++ x.text.toList := by
  change ("global_map[\"" ++ key ++ "\"] = " ++ x.text).toList = _
  simp only [String.toList_append]

theorem publish_conn_text (owner : String) :
    (Statement.publish (Role.conn.key owner) (Names.conn ⟨owner⟩)).text =
      registrationLine owner := by
  refine String.toList_inj.mp ?_
  rw [toList_publish, toList_registrationLine]
  simp [Role.key, Role.stem, Local.text, Names.conn, Slot.stem]

theorem publish_url_text_ne (owner other : String) :
    (Statement.publish (Role.url.key owner) (Names.url ⟨owner⟩)).text ≠
      registrationLine other := by
  intro same
  have chars := congrArg String.toList same
  rw [toList_publish, toList_registrationLine] at chars
  simp [Role.key, Role.stem] at chars

theorem lookup_text (cid owner : String) :
    (lookup ⟨cid⟩ owner).text = lookupLine cid owner := by
  refine String.toList_inj.mp ?_
  unfold lookupLine
  rw [← Statement.join_pieces]
  simp [lookup, Statement.pieces, Expr.pieces, Role.key, Role.stem, Local.text, Names.conn,
    Slot.stem]

theorem Registers.begins {key line : String} (registers : Registers key line) :
    line.toList.head? = some 'g' := by
  obtain ⟨rest, chars⟩ := registers
  rw [← chars]
  simp

/-- A key without quotes ends at the first quote after it. -/
theorem registers_publish_iff {key other : String} (x : Local) (plain : '"' ∉ key.toList)
    (otherPlain : '"' ∉ other.toList) :
    Registers key (Statement.publish other x).text ↔ key = other := by
  constructor
  · rintro ⟨rest, chars⟩
    rw [toList_publish] at chars
    simp only [String.toList_append, List.append_assoc, List.append_cancel_left_eq] at chars
    exact Text.eq_of_separated plain otherPlain chars
  · rintro rfl
    rw [Registers, toList_publish]
    simp only [String.toList_append]
    exact List.prefix_append _ _

end Stagewright.Connection

namespace Stagewright.Generation

open Code Connection

variable {kind : StageKind} {view : View}

/-- A line that begins like one that publishes does publish, and nothing but what the stage
publishes. -/
theorem published_of_begins {text : String} (member : text ∈ (stageCode kind view).texts)
    (begins : text.toList.head? = some 'g') :
    ∃ key x, (key, x) ∈ publishedBy kind ⟨view.cid⟩ ∧ text = (Statement.publish key x).text := by
  obtain ⟨line, found, rfl⟩ := List.mem_map.mp member
  have allowed := stageCode_allowed kind view line found
  obtain ⟨c, first, publishes⟩ := line.text_begins allowed.not_verbatim
  rw [begins] at first
  obtain ⟨outermost, key, x, statement⟩ := publishes (Option.some.inj first).symm
  rw [statement] at allowed
  refine ⟨key, x, allowed, ?_⟩
  rw [Line.text, outermost, statement, indented_zero]

theorem mem_publishedBy {key : String} {x : Local} {names : Names}
    (member : (key, x) ∈ publishedBy kind names) :
    kind = .connection ∧ ((key, x) = (Role.conn.key names.cid, names.conn) ∨
      (key, x) = (Role.url.key names.cid, names.url)) := by
  unfold publishedBy at member
  split at member
  · exact ⟨‹_›, by simpa [published] using member⟩
  · exact absurd member List.not_mem_nil

theorem registrationLine_mem (view : View) :
    registrationLine view.cid ∈ (stageCode .connection view).texts := by
  have step : State.registered ∈ (request view).mode.route := by
    cases (request view).mode <;> decide
  have line : (⟨0, .publish (Role.conn.key view.cid) (Names.conn ⟨view.cid⟩)⟩ : Line) ∈
      (request view).code .registered := by
    rw [Request.code_eq]
    exact List.mem_append_right _ List.mem_cons_self
  refine List.mem_map.mpr ⟨_, List.mem_flatMap.mpr ⟨.registered, step, line⟩, ?_⟩
  rw [Line.text, indented_zero, publish_conn_text]

/-- The fragment of a stage publishes the connection of the stage, if the stage is to get one, and
otherwise none. -/
theorem registrationLine_mem_iff {owner : String} :
    registrationLine owner ∈ (stageCode kind view).texts ↔
      kind = .connection ∧ owner = view.cid := by
  constructor
  · intro member
    obtain ⟨key, x, own, text⟩ := published_of_begins member (registrationLine_begins owner)
    obtain ⟨connection, conn | url⟩ := mem_publishedBy own
    · obtain ⟨rfl, rfl⟩ := Prod.mk.inj conn
      rw [publish_conn_text] at text
      exact ⟨connection, registrationLine_inj text⟩
    · obtain ⟨rfl, rfl⟩ := Prod.mk.inj url
      exact absurd text.symm (publish_url_text_ne view.cid owner)
  · rintro ⟨rfl, rfl⟩
    exact registrationLine_mem view

/-- Where the names of stages hold no quotes no other line publishes under the key either. -/
theorem registers_conn_iff {owner : String} (plain : '"' ∉ owner.toList)
    (ownPlain : '"' ∉ view.cid.toList) :
    (∃ line ∈ (stageCode kind view).texts, Registers (Role.conn.key owner) line) ↔
      kind = .connection ∧ owner = view.cid := by
  have keyPlain (role : Role) {cid : String} (plain : '"' ∉ cid.toList) :
      '"' ∉ (role.key cid).toList := by
    cases role <;> simpa [Role.key, Role.stem] using plain
  constructor
  · rintro ⟨line, member, registers⟩
    obtain ⟨key, x, own, rfl⟩ := published_of_begins member registers.begins
    obtain ⟨connection, conn | url⟩ := mem_publishedBy own
    · obtain ⟨rfl, rfl⟩ := Prod.mk.inj conn
      have same := (registers_publish_iff _ (keyPlain .conn plain) (keyPlain .conn ownPlain)).mp
        registers
      refine ⟨connection, String.toList_inj.mp ?_⟩
      simpa [Role.key, Role.stem] using congrArg String.toList same
    · obtain ⟨rfl, rfl⟩ := Prod.mk.inj url
      have same := (registers_publish_iff _ (keyPlain .conn plain) (keyPlain .url ownPlain)).mp
        registers
      have chars := congrArg String.toList same
      simp [Role.key, Role.stem] at chars
  · rintro ⟨rfl, rfl⟩
    refine ⟨_, registrationLine_mem view, ?_⟩
    rw [← publish_conn_text]
    exact (registers_publish_iff _ (keyPlain .conn plain) (keyPlain .conn plain)).mpr rfl

theorem lookupLine_mem (view : View) (kind : StageKind) (transactional : kind ≠ .connection) :
    lookupLine view.cid (view.trimmed "connection") ∈ (stageCode kind view).texts := by
  have first (e : Effect) : (⟨0, lookup ⟨view.cid⟩ (view.trimmed "connection")⟩ : Line) ∈
      effectCode view ⟨view.cid⟩ e := by
    rw [effectCode_eq]
    exact List.mem_append_left _ (List.mem_append_left _ List.mem_cons_self)
  have text (e : Effect) : lookupLine view.cid (view.trimmed "connection") ∈
      (effectCode view ⟨view.cid⟩ e).texts := by
    refine List.mem_map.mpr ⟨_, first e, ?_⟩
    rw [Line.text, indented_zero, lookup_text]
  cases kind with
  | connection => exact absurd rfl transactional
  | commit => exact text .commit
  | rollback => exact text .rollback
  | close => exact text .close

end Stagewright.Generation
