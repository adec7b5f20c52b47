import Stagewright.Code.Statement

/-!
The text of a statement taken apart: words that the generator writes itself, the variables among
them, what stands inside quotes, and expressions of the configuration.
-/

namespace Stagewright.Code

inductive Piece where
  | words (s : String)
  | named (x : Local)
  /-- Text inside a string of the generated program. -/
  | quoted (s : String)
  /-- An expression that the configuration gives. -/
  | given (source : String)
deriving DecidableEq, Repr

def Piece.text : Piece → String
  | .words s | .quoted s | .given s => s
  | .named x => x.text

def Piece.local? : Piece → Option Local
  | .named x => some x
  | _ => none

def Operand.piece : Operand → Piece
  | .given source => .given source
  | .absent => .words "None"
  | .emptyText => .words "\"\""

/-- Variables with commas between them. -/
def listed : List Local → List Piece
  | [] => []
  | [x] => [.named x]
  | x :: y :: rest => .named x :: .words ", " :: listed (y :: rest)

def Expr.pieces : Expr → List Piece
  | .operand o => [o.piece]
  | .read x => [.named x]
  | .zero => [.words "0"]
  | .one => [.words "1"]
  | .loadDriver driverClass => [.words "context.load_driver(", .named driverClass, .words ")"]
  | .decrypt source => [.words "context.decrypt_password(", .given source, .words ")"]
  | .pooled driverClass url user password name =>
    [.words "context.shared_connections.get_db_connection(", driverClass.piece, .words ", "] ++
      listed [url, user, password, name] ++ [.words ")"]
  | .connect driver url user password =>
    [.named driver, .words ".connect("] ++ listed [url, user, password] ++ [.words ")"]
  | .dataSources => [.words "context.data_sources"]
  | .served sources name =>
    [.named sources, .words "[", .named name, .words "].get_connection()"]
  | .published key => [.words "global_map.get(\"", .quoted key, .words "\")"]
  | .recordCount key => [.words "global_map.get(\"", .quoted key, .words "\", 0)"]
  | .metadataOf conn => [.words "connection_metadata(", .named conn, .words ")"]
  | .metadataField metadata field => [.named metadata, .words ".", .words field]
  | .successor x => [.named x, .words " + 1"]
  | .knownCount each => [.words "0 if ", .named each, .words " < 0 else ", .named each]

/-- The arguments of a message after the message itself. -/
def argumentPieces (args : List Expr) : List Piece := args.flatMap fun e => .words ", " :: e.pieces

namespace Statement

def pieces : Statement → List Piece
  | .bind x e => .named x :: .words " = " :: e.pieces
  | .add x e => .named x :: .words " += " :: e.pieces
  | .log level message args =>
    [.words "log.", .words level, .words "(", .quoted (Text.literal message)] ++
      argumentPieces args ++ [.words ")"]
  | .initPoolLog label =>
    [.words "context.shared_connections.init_logger(log, \"", .quoted label, .words "\")"]
  | .whenPresent x => [.words "if ", .named x, .words " is not None:"]
  | .whenUnserved sources name =>
    [.words "if ", .named sources, .words ".get(", .named name, .words ") is None:"]
  | .raiseUnserved name => [.words "raise DataSourceNotFoundError(", .named name, .words ")"]
  | .setAutocommit conn flag => [.named conn, .words ".autocommit = ", .words (boolText flag)]
  | .publish key x => [.words "global_map[\"", .quoted key, .words "\"] = ", .named x]
  | .withhold key x => [.words "# global_map[\"", .quoted key, .words "\"] = ", .named x]
  | .effect conn e => [.named conn, .words ".", .words e.name, .words "()"]
  | .executeBatch stmt => [.named stmt, .words ".execute_batch()"]
  | .eachCount each stmt =>
    [.words "for ", .named each, .words " in ", .named stmt, .words ".execute_batch():"]
  | .verbatim source => [.given source]

/-- The variables that stand in the generator's own words, in their order. -/
def locals (s : Statement) : List Local := s.pieces.filterMap Piece.local?

def isComment : Statement → Bool
  | .withhold _ _ => true
  | _ => false

/-- The variables in the words of a statement apart from the one it gives a value. A comment uses
none. -/
def uses (s : Statement) : List Local :=
  if s.isComment then []
  else
    match s.binds? with
    | some x => s.locals.erase x
    | none => s.locals

end Statement

@[simp] theorem Piece.text_words (s : String) : (Piece.words s).text = s := rfl
@[simp] theorem Piece.text_named (x : Local) : (Piece.named x).text = x.text := rfl
@[simp] theorem Piece.text_quoted (s : String) : (Piece.quoted s).text = s := rfl
@[simp] theorem Piece.text_given (s : String) : (Piece.given s).text = s := rfl

@[simp] theorem Operand.text_part (o : Operand) : o.piece.text = o.text := by
  cases o <;> rfl

theorem join_listed (xs : List Local) :
    String.join ((listed xs).map Piece.text) = ", ".intercalate (xs.map Local.text) := by
  induction xs using listed.induct with
  | case1 => rfl
  | case2 x => simp [listed]
  | case3 x y rest ih =>
    simp only [List.map_cons] at ih ⊢
    rw [listed, String.intercalate_cons_cons, ← ih]
    simp [String.append_assoc]

/-- The text of an expression is that of its pieces, one after the other. -/
theorem Expr.join_pieces (e : Expr) : String.join (e.pieces.map Piece.text) = e.text := by
  unfold Expr.pieces Expr.text
  cases e <;> simp [join_listed, String.append_assoc]

theorem join_argumentParts (opening : String) (args : List Expr) :
    opening ++ String.join ((argumentPieces args).map Piece.text) =
      ", ".intercalate (opening :: args.map Expr.text) := by
  induction args generalizing opening with
  | nil => simp [argumentPieces]
  | cons e args ih =>
    have rest := ih e.text
    simp only [List.map_cons, String.intercalate_cons_cons, ← rest]
    simp [argumentPieces, Expr.join_pieces, String.append_assoc]

/-- The text of a statement is that of its pieces, one after the other. -/
theorem Statement.join_pieces (s : Statement) : String.join (s.pieces.map Piece.text) = s.text := by
  cases s with
  | log level message args =>
    have arguments := join_argumentParts (Text.literal message) args
    change _ = "log." ++ level ++ "(" ++
      ", ".intercalate (Text.literal message :: args.map Expr.text) ++ ")"
    rw [← arguments]
    simp [pieces, String.append_assoc]
  | _ =>
    unfold pieces text
    simp [Expr.join_pieces, String.append_assoc]

theorem Slot.stem_begins (slot : Slot) : ∃ c, slot.stem.toList.head? = some c ∧ c ≠ 'g' := by
  cases slot <;> exact ⟨_, rfl, by decide⟩

theorem Local.text_begins (x : Local) : ∃ c, x.text.toList.head? = some c ∧ c ≠ 'g' := by
  obtain ⟨c, begins, other⟩ := x.slot.stem_begins
  exact ⟨c, by simp [text, begins], other⟩

/-- No statement of the generator is empty, and only one that publishes begins like it. -/
theorem Statement.text_begins (s : Statement) (own : ∀ source, s ≠ .verbatim source) :
    ∃ c, s.text.toList.head? = some c ∧ (c = 'g' → ∃ key x, s = .publish key x) := by
  have fixed {c : Char} (begins : (String.join (s.pieces.map Piece.text)).toList.head? = some c)
      (other : c ≠ 'g') : ∃ c, s.text.toList.head? = some c ∧
        (c = 'g' → ∃ key x, s = .publish key x) :=
    ⟨c, s.join_pieces ▸ begins, fun same => absurd same other⟩
  cases s with
  | bind x e =>
    obtain ⟨c, begins, other⟩ := x.text_begins
    exact fixed (by simp [pieces, begins]) other
  | add x e =>
    obtain ⟨c, begins, other⟩ := x.text_begins
    exact fixed (by simp [pieces, begins]) other
  | setAutocommit conn flag =>
    obtain ⟨c, begins, other⟩ := conn.text_begins
    exact fixed (by simp [pieces, begins]) other
  | effect conn e =>
    obtain ⟨c, begins, other⟩ := conn.text_begins
    exact fixed (by simp [pieces, begins]) other
  | executeBatch stmt =>
    obtain ⟨c, begins, other⟩ := stmt.text_begins
    exact fixed (by simp [pieces, begins]) other
  | publish key x =>
    refine ⟨'g', ?_, fun _ => ⟨key, x, rfl⟩⟩
    rw [← join_pieces]
    simp [pieces]
  | log level message args => exact @fixed 'l' (by simp [pieces]) (by decide)
  | initPoolLog label => exact @fixed 'c' (by simp [pieces]) (by decide)
  | whenPresent x => exact @fixed 'i' (by simp [pieces]) (by decide)
  | whenUnserved sources name => exact @fixed 'i' (by simp [pieces]) (by decide)
  | raiseUnserved name => exact @fixed 'r' (by simp [pieces]) (by decide)
  | withhold key x => exact @fixed '#' (by simp [pieces]) (by decide)
  | eachCount each stmt => exact @fixed 'f' (by simp [pieces]) (by decide)
  | verbatim source => exact absurd rfl (own source)

@[simp] theorem Piece.local?_words (s : String) : (Piece.words s).local? = none := rfl
@[simp] theorem Piece.local?_named (x : Local) : (Piece.named x).local? = some x := rfl
@[simp] theorem Piece.local?_quoted (s : String) : (Piece.quoted s).local? = none := rfl
@[simp] theorem Piece.local?_given (s : String) : (Piece.given s).local? = none := rfl

@[simp] theorem Operand.local?_part (o : Operand) : o.piece.local? = none := by
  cases o <;> rfl

@[simp] theorem locals_listed (xs : List Local) :
    (listed xs).filterMap Piece.local? = xs := by
  induction xs using listed.induct with
  | case1 => rfl
  | case2 x => rfl
  | case3 x y rest ih => simp [listed, List.filterMap_cons, ih]

/-- The variables an expression reads are those that stand in its words. -/
theorem Expr.mem_reads_iff (e : Expr) (x : Local) :
    x ∈ e.reads ↔ x ∈ e.pieces.filterMap Piece.local? := by
  cases e <;> simp [reads, pieces, List.filterMap_cons]

theorem mem_argumentParts_iff (args : List Expr) (x : Local) :
    x ∈ (argumentPieces args).filterMap Piece.local? ↔ x ∈ args.flatMap Expr.reads := by
  induction args with
  | nil => rfl
  | cons e args ih =>
    simp only [argumentPieces, List.flatMap_cons, List.filterMap_append, List.mem_append] at ih ⊢
    rw [ih, List.filterMap_cons_none rfl, ← e.mem_reads_iff]

/-- What a statement reads is what it uses in its words. -/
theorem Statement.mem_uses_iff (s : Statement) (x : Local) : x ∈ s.uses ↔ x ∈ s.reads := by
  cases s with
  | bind y e =>
    have right := e.mem_reads_iff x
    simp [uses, isComment, locals, pieces, binds?, reads, List.filterMap_cons, right]
  | add y e =>
    have right := e.mem_reads_iff x
    simp [uses, isComment, locals, pieces, binds?, reads, List.filterMap_cons, right]
  | log level message args =>
    have words : (log level message args).uses =
        (argumentPieces args).filterMap Piece.local? := by
      simp [uses, isComment, locals, pieces, binds?, List.filterMap_cons]
    rw [words]
    exact mem_argumentParts_iff args x
  | _ => simp [uses, isComment, locals, pieces, binds?, reads, List.filterMap_cons]

end Stagewright.Code
