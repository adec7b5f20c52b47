import Mathlib.Algebra.Group.Nat.Defs
import Stagewright.Code.Statement
import Stagewright.Proofs.Text.Printable
import Stagewright.Proofs.Text.Quoting
import Stagewright.Proofs.Text.Symbol

/-!
Literals are read back. Between its quotes a literal writes each symbol of a text as itself or as
an escape that stands for that symbol alone, and every quote before the last one is escaped. So a
message reaches the log as it is, whatever it holds.
-/

namespace Stagewright.Text

section Digits

theorem length_hexDigits (width n : Nat) : (hexDigits width n).length = width := by
  induction width generalizing n with
  | zero => rfl
  | succ width ih => simp [hexDigits, ih]

theorem hexValue?_hexDigit : ∀ n < 16, Yaml.hexValue? (hexDigit n) = some n := by
  decide

theorem hexNumber?_concat (cs : List Char) (c : Char) :
    Yaml.hexNumber? (cs ++ [c]) =
      (Yaml.hexNumber? cs).bind fun n => (Yaml.hexValue? c).map (16 * n + ·) := by
  simp [Yaml.hexNumber?, List.foldlM_append]

/-- The last digits of a number stand for its remainder. -/
theorem hexNumber?_hexDigits (width n : Nat) :
    Yaml.hexNumber? (hexDigits width n) = some (n % 16 ^ width) := by
  induction width generalizing n with
  | zero => simp [hexDigits, Yaml.hexNumber?, Nat.mod_one]
  | succ width ih =>
    have last : n % 16 < 16 := Nat.mod_lt n (by decide)
    have whole : 16 * (n / 16 % 16 ^ width) + n % 16 = n % 16 ^ (width + 1) := by
      rw [Nat.pow_succ, Nat.mul_comm (16 ^ width), Nat.mod_mul, Nat.add_comm]
    rw [hexDigits, hexNumber?_concat, ih, hexValue?_hexDigit _ last, ← whole]
    rfl

theorem hexDigit_plain {quote : Char} (mark : quote = '\'' ∨ quote = '"') :
    ∀ n < 16, hexDigit n ≠ quote ∧ hexDigit n ≠ '\\' := by
  rcases mark with rfl | rfl <;> decide

theorem hexDigits_plain {quote : Char} (mark : quote = '\'' ∨ quote = '"') (width n : Nat) :
    ∀ c ∈ hexDigits width n, c ≠ quote ∧ c ≠ '\\' := by
  induction width generalizing n with
  | zero => simp [hexDigits]
  | succ width ih =>
    rw [hexDigits, List.forall_mem_append, List.forall_mem_singleton]
    exact ⟨ih (n / 16), hexDigit_plain mark _ (Nat.mod_lt n (by decide))⟩

end Digits

namespace Symbol

theorem number_le (s : Symbol) : s.number ≤ 0x10ffff := by
  cases s with
  | char c =>
    have valid : c.toNat < 0xd800 ∨ 0xdfff < c.toNat ∧ c.toNat < 0x110000 := c.valid
    simp only [number]
    omega
  | half place =>
    have within := place.isLt
    simp only [number]
    omega

/-- A symbol is known by its number. -/
theorem ofNumber_number (s : Symbol) : ofNumber s.number = s := by
  cases s with
  | char c =>
    have valid : c.toNat < 0xd800 ∨ 0xdfff < c.toNat ∧ c.toNat < 0x110000 := c.valid
    rw [number, ofNumber, dif_neg (by omega), Char.ofNat_toNat]
  | half place =>
    have within := place.isLt
    rw [number, ofNumber, dif_pos (by omega)]
    simp

end Symbol

/-- A way to write a symbol between quotes `quote`: a character as itself, as a letter after a
backslash, or any symbol by the digits of its number. -/
inductive Spells (quote : Char) : List Char → Symbol → Prop
  | itself {c : Char} : isPrintable c = true → c ≠ quote → c ≠ '\\' → Spells quote [c] (.char c)
  | letter {c d : Char} : escapeLetter? d = some c → Spells quote ['\\', d] (.char c)
  | digits {d : Char} {width : Nat} {s : Symbol} : Yaml.escapeWidth? d = some width →
      escapeLetter? d = none → s.number < 16 ^ width →
      Spells quote ('\\' :: d :: hexDigits width s.number) s

/-- What shows goes on on its line. -/
theorem breaksLiteral_of_shown {c : Char} (shown : isPrintable c = true) :
    breaksLiteral c = false := by
  cases breaks : breaksLiteral c with
  | false => rfl
  | true =>
    obtain rfl | rfl | rfl : c = '\n' ∨ c = '\r' ∨ c = '\x00' := by
      simpa [breaksLiteral, or_assoc] using breaks
    all_goals exact absurd shown (by decide)

section Spelling

variable {quote : Char} {spelling : List Char} {s : Symbol}

theorem spells_escapeNumber (s : Symbol) : Spells quote (escapeNumber s.number) s := by
  have bound := s.number_le
  unfold escapeNumber
  split
  · exact .digits rfl rfl (by simpa using ‹s.number < 0x100›)
  · split
    · exact .digits rfl rfl (by simpa using ‹s.number < 0x10000›)
    · exact .digits rfl rfl (by omega)

theorem spells_escapeSymbol (mark : quote = '\'' ∨ quote = '"') (s : Symbol) :
    Spells quote (escapeSymbol quote s) s := by
  cases s with
  | half place => exact spells_escapeNumber (.half place)
  | char c =>
    simp only [escapeSymbol]
    split
    case isTrue special =>
      have named : escapeLetter? c = some c := by
        rcases special with rfl | rfl
        · rcases mark with rfl | rfl <;> rfl
        · rfl
      exact .letter named
    case isFalse plain =>
      split
      · exact .letter (by rw [‹c = '\t'›]; rfl)
      split
      · exact .letter (by rw [‹c = '\n'›]; rfl)
      split
      · exact .letter (by rw [‹c = '\r'›]; rfl)
      split
      · exact .itself ‹_› (fun same => plain (.inl same)) fun same => plain (.inr same)
      · exact spells_escapeNumber (.char c)

/-- Characters without a meaning of their own belong to the body of a literal. -/
theorem literalBody?_plain {cs rest body after : List Char}
    (plain : ∀ c ∈ cs, (c ≠ quote ∧ c ≠ '\\') ∧ breaksLiteral c = false)
    (read : literalBody? quote false rest = some (body, after)) :
    literalBody? quote false (cs ++ rest) = some (cs ++ body, after) := by
  induction cs with
  | nil => exact read
  | cons c cs ih =>
    obtain ⟨⟨⟨apart, single⟩, whole⟩, later⟩ := List.forall_mem_cons.mp plain
    simp [literalBody?, apart, single, whole, ih later]

/-- After a backslash any character does that does not break the literal. -/
theorem literalBody?_escape {c : Char} {rest body after : List Char} (other : '\\' ≠ quote)
    (whole : breaksLiteral c = false) (read : literalBody? quote false rest = some (body, after)) :
    literalBody? quote false ('\\' :: c :: rest) = some ('\\' :: c :: body, after) := by
  have unbroken : breaksLiteral '\\' = false := by decide
  simp [literalBody?, other, unbroken, whole, read]

theorem Spells.body (spells : Spells quote spelling s) (mark : quote = '\'' ∨ quote = '"')
    (whole : ∀ c ∈ spelling, breaksLiteral c = false) {rest body after : List Char}
    (read : literalBody? quote false rest = some (body, after)) :
    literalBody? quote false (spelling ++ rest) = some (spelling ++ body, after) := by
  have other : '\\' ≠ quote := by rcases mark with rfl | rfl <;> decide
  cases spells with
  | @itself c shown apart single =>
    refine literalBody?_plain ?_ read
    rw [List.forall_mem_singleton]
    exact ⟨⟨apart, single⟩, whole c List.mem_cons_self⟩
  | @letter c d named =>
    exact literalBody?_escape other (whole d (List.mem_cons_of_mem _ List.mem_cons_self)) read
  | @digits d width s wide _ _ =>
    rw [List.forall_mem_cons, List.forall_mem_cons] at whole
    refine literalBody?_escape other whole.2.1 (literalBody?_plain (fun c member => ?_) read)
    exact ⟨hexDigits_plain mark width s.number c member, whole.2.2 c member⟩

variable {named : List Char → Option Char}

/-- What has been read is passed over. -/
theorem literalValue?_pass (cs rest : List Char) :
    literalValue? named cs.length (cs ++ rest) = literalValue? named 0 rest := by
  induction cs with
  | nil => rfl
  | cons c cs ih => simpa [literalValue?] using ih

/-- The mark of a half does not show, so it never stands in a literal. -/
theorem isPrintable_halfMark : isPrintable halfMark = false := by
  decide +kernel

theorem escapeLetter?_written {c d : Char} (letter : escapeLetter? d = some c) :
    (Symbol.char c).written = [c] := by
  refine Symbol.written_char ?_
  rintro rfl
  unfold escapeLetter? at letter
  split at letter <;> simp [halfMark] at letter

theorem readEscape?_digits {d : Char} {width : Nat} (letter : escapeLetter? d = none)
    (wide : Yaml.escapeWidth? d = some width) (fits : s.number < 16 ^ width) (rest : List Char) :
    readEscape? named (d :: (hexDigits width s.number ++ rest)) = some (s.written, width + 1) := by
  have length := length_hexDigits width s.number
  have enough : ¬(hexDigits width s.number ++ rest).length < width := by
    rw [List.length_append, length]
    omega
  have taken : (hexDigits width s.number ++ rest).take width = hexDigits width s.number := by
    rw [List.take_append_of_le_length length.ge, List.take_of_length_le length.le]
  have known : ¬0x10ffff < s.number := Nat.not_lt.mpr s.number_le
  simp only [readEscape?, letter, wide, if_neg enough, taken, hexNumber?_hexDigits,
    Nat.mod_eq_of_lt fits, Option.bind_some, if_neg known, Symbol.ofNumber_number]

theorem Spells.value (spells : Spells quote spelling s) {rest value : List Char}
    (read : literalValue? named 0 rest = some value) :
    literalValue? named 0 (spelling ++ rest) = some (s.written ++ value) := by
  cases spells with
  | @itself c shown _ single =>
    have unmarked : c ≠ halfMark := by
      rintro rfl
      exact absurd shown (by simp [isPrintable_halfMark])
    simp [literalValue?, single, read, Symbol.written_char unmarked]
  | @letter c d letter =>
    simp [literalValue?, readEscape?, letter, read, escapeLetter?_written letter]
  | @digits d width s wide letter fits =>
    have escape : readEscape? named (d :: (hexDigits width s.number ++ rest)) =
        some (s.written, width + 1) := readEscape?_digits letter wide fits rest
    have passed : literalValue? named (hexDigits width s.number).length
        (hexDigits width s.number ++ rest) = literalValue? named 0 rest := literalValue?_pass _ rest
    rw [length_hexDigits] at passed
    simp [literalValue?, escape, passed, read]

end Spelling

section Text

variable {quote : Char} (mark : quote = '\'' ∨ quote = '"') (text : List Symbol)

include mark

theorem isPrintable_spelled : ∀ c ∈ text.flatMap (escapeSymbol quote), isPrintable c = true := by
  have shown : isPrintable quote = true := by rcases mark with rfl | rfl <;> decide
  intro c member
  obtain ⟨s, -, inside⟩ := List.mem_flatMap.mp member
  exact isPrintable_escapeSymbol shown s c inside

theorem literalBody?_spelled (after : List Char) :
    literalBody? quote false (text.flatMap (escapeSymbol quote) ++ quote :: after) =
      some (text.flatMap (escapeSymbol quote), after) := by
  induction text with
  | nil => simp [literalBody?]
  | cons s rest ih =>
    have shown := isPrintable_spelled mark [s]
    rw [List.flatMap_singleton] at shown
    have whole : ∀ c ∈ escapeSymbol quote s, breaksLiteral c = false :=
      fun c member => breaksLiteral_of_shown (shown c member)
    rw [List.flatMap_cons, List.append_assoc]
    exact (spells_escapeSymbol mark s).body mark whole ih

theorem literalValue?_spelled (named : List Char → Option Char) :
    literalValue? named 0 (text.flatMap (escapeSymbol quote)) = some (inChars text) := by
  induction text with
  | nil => rfl
  | cons s rest ih =>
    rw [List.flatMap_cons, inChars_cons]
    exact (spells_escapeSymbol mark s).value ih

end Text

/-- Whether a character that comes next is escaped: an odd number of backslashes stands right in
front of it. -/
def escapesNext (before : List Char) : Bool :=
  (before.reverse.takeWhile (· = '\\')).length % 2 = 1

theorem escapesNext_concat (before : List Char) (c : Char) :
    escapesNext (before ++ [c]) = (!escapesNext before && c = '\\') := by
  by_cases backslash : c = '\\'
  · simp only [escapesNext, backslash, List.reverse_append, List.reverse_singleton,
      List.singleton_append, List.takeWhile_cons, decide_true, if_true, List.length_cons,
      Bool.and_true, ← decide_not, decide_eq_decide]
    omega
  · simp [escapesNext, backslash]

/-- The body of a literal ends at the first quote that is not escaped. -/
theorem literalBody?_first {quote : Char} {before source body after : List Char}
    (read : literalBody? quote (escapesNext before) source = some (body, after)) :
    escapesNext (before ++ body) = false ∧
      ∀ front back, body = front ++ quote :: back → escapesNext (before ++ front) = true := by
  induction source generalizing before body with
  | nil => simp [literalBody?] at read
  | cons c rest ih =>
    rw [literalBody?] at read
    split at read
    · rename_i closes
      obtain ⟨rfl, -⟩ : [] = body ∧ rest = after := by simpa using read
      exact ⟨by rw [List.append_nil, closes.2], by simp⟩
    split at read
    · exact absurd read (by simp)
    · rename_i inside _
      obtain ⟨⟨inner, behind⟩, later, same⟩ := Option.map_eq_some_iff.mp read
      obtain ⟨rfl, rfl⟩ := Prod.mk.inj same
      rw [← escapesNext_concat] at later
      obtain ⟨last, each⟩ := ih later
      rw [List.append_assoc, List.singleton_append] at last
      refine ⟨last, fun front back split => ?_⟩
      cases front with
      | nil =>
        obtain ⟨rfl, -⟩ := List.cons.inj split
        rw [List.append_nil]
        simpa using inside
      | cons d front =>
        obtain ⟨rfl, within⟩ := List.cons.inj split
        have escaped := each front back within
        rwa [List.append_assoc, List.singleton_append] at escaped

/-- Characters of which none is the mark of a half stand for themselves. -/
theorem symbols_of_unmarked {cs : List Char} (unmarked : halfMark ∉ cs) :
    symbols cs = cs.map .char := by
  have written : cs = (cs.map Symbol.char).flatMap Symbol.written := by
    rw [List.flatMap_map]
    induction cs with
    | nil => rfl
    | cons c rest ih =>
      rw [List.mem_cons, not_or] at unmarked
      rw [List.flatMap_cons, Symbol.written_char (Ne.symm unmarked.1), ← ih unmarked.2]
      rfl
  calc symbols cs = symbols ((cs.map Symbol.char).flatMap Symbol.written) := congrArg _ written
    _ = cs.map .char := symbols_written _

/-- What shows has a form in bytes. -/
theorem Shows.isEncodable {s : String} (shows : Shows s) : isEncodable s = true := by
  have unmarked : halfMark ∉ s.toList := by
    intro member
    exact absurd (shows halfMark member) (by simp [isPrintable_halfMark])
  have plain : (s.toList.map Symbol.char).mapM Symbol.char? = some s.toList := by
    induction s.toList with
    | nil => rfl
    | cons c rest ih => simp [Symbol.char?, ih]
  rw [Text.isEncodable, chars?, symbols_of_unmarked unmarked, plain]
  rfl

theorem quoteFor_eq (cs : List Char) : quoteFor cs = '\'' ∨ quoteFor cs = '"' := by
  unfold quoteFor
  split
  · exact .inr rfl
  · exact .inl rfl

theorem literalChars_inChars (text : List Symbol) :
    literalChars (inChars text) = quoteFor (inChars text) ::
      text.flatMap (escapeSymbol (quoteFor (inChars text))) ++ [quoteFor (inChars text)] := by
  simp only [literalChars, inChars, symbols_written]

/-- A literal is read as the text that it has been written for, whatever stands behind it. -/
theorem readLiteral?_literalChars (named : List Char → Option Char) (text : List Symbol)
    (rest : List Char) :
    readLiteral? named (literalChars (inChars text) ++ rest) = some (inChars text, rest) := by
  have mark := quoteFor_eq (inChars text)
  have shown : Shows (String.ofList (text.flatMap (escapeSymbol (quoteFor (inChars text))))) :=
    shows_ofList.mpr (isPrintable_spelled mark text)
  rw [literalChars_inChars, List.cons_append, List.cons_append, List.append_assoc,
    List.singleton_append, readLiteral?, if_pos mark.symm, literalBody?_spelled mark]
  simp [shown.isEncodable, literalValue?_spelled mark]

end Stagewright.Text

namespace Stagewright.Code

open Text

/-- Arguments follow the message, each behind a comma. -/
theorem Statement.logText_eq (level message : String) (args : List String) :
    logText level message args =
      "log." ++ level ++ "(" ++ literal message ++ String.join (args.map (", " ++ ·)) ++ ")" := by
  have behind (first : String) : ", ".intercalate (first :: args) =
      first ++ String.join (args.map (", " ++ ·)) := by
    induction args generalizing first with
    | nil => simp
    | cons arg rest ih => simp [String.intercalate_cons_cons, ih arg, String.append_assoc]
  rw [logText, behind]
  simp only [String.append_assoc]

/-- A message is logged as it is. The statement that logs it holds one literal on one line, of
characters that show, which ends at the first quote in it that is not escaped and is read as the
message; the arguments stand behind it as they are. -/
theorem message_read_back (level : String) (message : List Symbol) (args : List String) :
    ∃ (quote : Char) (body : List Char),
      Statement.logText level (ofSymbols message) args =
        "log." ++ level ++ "(" ++ String.ofList (quote :: body ++ [quote]) ++
          String.join (args.map (", " ++ ·)) ++ ")" ∧
      (quote = '\'' ∨ quote = '"') ∧
      (∀ c ∈ quote :: body ++ [quote], isPrintable c = true ∧ breaksLiteral c = false) ∧
      (∀ front back, body = front ++ quote :: back → escapesNext front = true) ∧
      escapesNext body = false ∧
      ∀ (named : List Char → Option Char) (rest : List Char),
        readLiteral? named (quote :: body ++ quote :: rest) =
          some ((ofSymbols message).toList, rest) := by
  have mark := quoteFor_eq (inChars message)
  have chars := literalChars_inChars message
  obtain ⟨last, each⟩ := @literalBody?_first _ [] _ _ _ (literalBody?_spelled mark message [])
  refine ⟨quoteFor (inChars message), message.flatMap (escapeSymbol (quoteFor (inChars message))),
    ?text, mark, ?shown, each, last, ?read⟩
  case text => rw [Statement.logText_eq, literal, toList_ofSymbols, chars]
  case shown =>
    intro c member
    have shown : isPrintable c = true := by
      refine shows_ofList.mp (shows_literal (ofSymbols message)) c ?_
      rwa [toList_ofSymbols, chars]
    exact ⟨shown, breaksLiteral_of_shown shown⟩
  case read =>
    intro named rest
    have read := readLiteral?_literalChars named message rest
    rw [chars] at read
    simpa [toList_ofSymbols] using read

end Stagewright.Code
