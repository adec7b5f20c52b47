import Stagewright.Proofs.Text.Symbol
import Stagewright.Yaml.QuotedText

/-!
How the generated program reads a literal: the characters up to the closing quote, and what they
stand for. A text that is put between quotes as it stands is read as itself only if it holds nothing
that ends the literal or has a meaning of its own in it.
-/

namespace Stagewright.Text

/-- Characters that a literal on one line cannot go on after. -/
def breaksLiteral (c : Char) : Bool := c = '\n' || c = '\r' || c = '\x00'

/-- The characters up to the closing quote, and those behind it. After a backslash a quote does not
close the literal. -/
def literalBody? (quote : Char) : (escaped : Bool) → List Char → Option (List Char × List Char)
  | _, [] => none
  | escaped, c :: rest =>
    if c = quote ∧ escaped = false then some ([], rest)
    else if breaksLiteral c then none
    else (literalBody? quote (!escaped && c = '\\') rest).map fun (body, after) =>
      (c :: body, after)

/-- The character that a letter after a backslash stands for. -/
def escapeLetter? : Char → Option Char
  | '\\' => some '\\'
  | '\'' => some '\''
  | '"' => some '"'
  | 'a' => some '\x07'
  | 'b' => some '\x08'
  | 'f' => some '\x0c'
  | 'n' => some '\n'
  | 'r' => some '\r'
  | 't' => some '\t'
  | 'v' => some '\x0b'
  | _ => none

def isOctalDigit (c : Char) : Bool := '0' ≤ c && c ≤ '7'

/-- The characters that make an escape with the backslash in front of them. -/
def startsEscape (c : Char) : Bool :=
  (escapeLetter? c).isSome || (Yaml.escapeWidth? c).isSome || isOctalDigit c || c = 'N'

def octalNumber (digits : List Char) : Nat :=
  digits.foldl (fun n c => 8 * n + (c.toNat - 48)) 0

/-- The character that goes by a name in braces, and how many characters that takes with the letter
in front of them. -/
def readName? (named : List Char → Option Char) : List Char → Option (List Char × Nat)
  | [] => none
  | c :: rest =>
    let name := rest.takeWhile (· != '}')
    if c = '{' ∧ name.length < rest.length then
      (named name).map fun d => ((Symbol.char d).written, name.length + 3)
    else none

/-- What the characters after a backslash are read as, and how many of them. A backslash that makes
no escape stands for itself. Which character goes by a name is told by `named`. -/
def readEscape? (named : List Char → Option Char) : List Char → Option (List Char × Nat)
  | [] => none
  | c :: rest =>
    match escapeLetter? c, Yaml.escapeWidth? c with
    | some d, _ => some ([d], 1)
    | none, some width =>
      if rest.length < width then none
      else (Yaml.hexNumber? (rest.take width)).bind fun n =>
        if 0x10ffff < n then none else some ((Symbol.ofNumber n).written, width + 1)
    | none, none =>
      if isOctalDigit c then
        let digits := (rest.take 2).takeWhile isOctalDigit
        some ([Char.ofNat (octalNumber (c :: digits))], digits.length + 1)
      else if c = 'N' then readName? named rest
      else some (['\\', c], 1)

/-- What the characters between the quotes stand for. The first `skip` have been read. -/
def literalValue? (named : List Char → Option Char) : (skip : Nat) → List Char → Option (List Char)
  | _, [] => some []
  | skip + 1, _ :: rest => literalValue? named skip rest
  | 0, c :: rest =>
    if c = '\\' then do
      let (value, taken) ← readEscape? named rest
      let more ← literalValue? named taken rest
      return value ++ more
    else (literalValue? named 0 rest).map (c :: ·)

/-- The value of a literal on one line, and what stands behind it. A half of a pair can be asked for
by an escape, and cannot stand there itself. -/
def readLiteral? (named : List Char → Option Char) : List Char → Option (List Char × List Char)
  | [] => none
  | quote :: rest =>
    if quote = '"' ∨ quote = '\'' then do
      let (body, after) ← literalBody? quote false rest
      if isEncodable (String.ofList body) then
        let value ← literalValue? named 0 body
        return (value, after)
      else none
    else none

/-- Text that is read as itself between quotes: no quote, nothing that breaks the literal, and no
backslash but in front of a character that makes no escape with it. -/
inductive Inert (quote : Char) : List Char → Prop
  | nil : Inert quote []
  | char {c : Char} {rest : List Char} : c ≠ quote → breaksLiteral c = false → c ≠ '\\' →
      Inert quote rest → Inert quote (c :: rest)
  | backslash {c : Char} {rest : List Char} : startsEscape c = false → breaksLiteral c = false →
      Inert quote rest → Inert quote ('\\' :: c :: rest)

theorem Inert.of_plain {quote : Char} {cs : List Char}
    (plain : cs.all (fun c => c != quote && !breaksLiteral c && c != '\\') = true) :
    Inert quote cs := by
  induction cs with
  | nil => exact .nil
  | cons c rest ih =>
    simp only [List.all_cons, Bool.and_eq_true, bne_iff_ne, Bool.not_eq_true'] at plain
    obtain ⟨⟨⟨apart, whole⟩, single⟩, later⟩ := plain
    exact .char apart whole single (ih (by simpa using later))

theorem Inert.quote_not_mem {quote : Char} {cs : List Char} (inert : Inert quote cs)
    (mark : startsEscape quote = true) (other : '\\' ≠ quote) : quote ∉ cs := by
  induction inert with
  | nil => exact List.not_mem_nil
  | char apart _ _ _ ih =>
    rw [List.mem_cons, not_or]
    exact ⟨apart.symm, ih⟩
  | backslash plain _ _ ih =>
    rw [List.mem_cons, List.mem_cons, not_or, not_or]
    refine ⟨other.symm, ?_, ih⟩
    rintro rfl
    exact absurd (plain.symm.trans mark) (by decide)

/-- Text that can be put between double quotes as it is. -/
def StandsInQuotes (s : String) : Prop := Inert '"' s.toList ∧ isEncodable s

/-- The source begins with a literal of the value. -/
def ReadsAs (named : List Char → Option Char) (source value : String) : Prop :=
  ∃ after, readLiteral? named source.toList = some (value.toList, after)

section Body

variable {quote : Char}

theorem literalBody?_split {escaped : Bool} {source body after : List Char}
    (read : literalBody? quote escaped source = some (body, after)) :
    source = body ++ quote :: after ∧ ∀ c ∈ body, breaksLiteral c = false := by
  induction source generalizing escaped body with
  | nil => simp [literalBody?] at read
  | cons c rest ih =>
    rw [literalBody?] at read
    split at read
    · rename_i closes
      obtain ⟨rfl, rfl⟩ : [] = body ∧ rest = after := by simpa using read
      exact ⟨by rw [closes.1]; rfl, List.forall_mem_nil _⟩
    split at read
    · exact absurd read (by simp)
    · rename_i plain
      obtain ⟨⟨inner, behind⟩, later, same⟩ := Option.map_eq_some_iff.mp read
      obtain ⟨rfl, rfl⟩ := Prod.mk.inj same
      obtain ⟨split, each⟩ := ih later
      refine ⟨by rw [split]; rfl, ?_⟩
      rw [List.forall_mem_cons]
      exact ⟨by simpa using plain, each⟩

theorem literalBody?_cons {escaped : Bool} {c : Char} {source body after : List Char}
    (read : literalBody? quote escaped (c :: source) = some (c :: body, after)) :
    ¬(c = quote ∧ escaped = false) ∧ breaksLiteral c = false ∧
      literalBody? quote (!escaped && c = '\\') source = some (body, after) := by
  rw [literalBody?] at read
  split at read
  · exact absurd read (by simp)
  split at read
  · exact absurd read (by simp)
  · rename_i opened plain
    obtain ⟨⟨inner, behind⟩, later, same⟩ := Option.map_eq_some_iff.mp read
    obtain ⟨held, rfl⟩ := Prod.mk.inj same
    obtain ⟨-, rfl⟩ := List.cons.inj held
    exact ⟨opened, by simpa using plain, later⟩

theorem Inert.body {body : List Char} (inert : Inert quote body) (other : '\\' ≠ quote)
    (after : List Char) :
    literalBody? quote false (body ++ quote :: after) = some (body, after) := by
  have whole : breaksLiteral '\\' = false := by decide
  induction inert with
  | nil => simp [literalBody?]
  | char apart plain single _ ih => simp [literalBody?, apart, plain, single, ih]
  | backslash _ plain _ ih => simp [literalBody?, other, whole, plain, ih]

end Body

section Value

variable {named : List Char → Option Char}

theorem Symbol.length_written_le (s : Symbol) : s.written.length ≤ 2 := by
  cases s with
  | char c =>
    rw [written]
    split <;> simp
  | half place => simp [written]

theorem readEscape?_plain {c : Char} (plain : startsEscape c = false) (rest : List Char) :
    readEscape? named (c :: rest) = some (['\\', c], 1) := by
  simp only [startsEscape, Bool.or_eq_false_iff, Option.isSome_eq_false_iff,
    Option.isNone_iff_eq_none, decide_eq_false_iff_not] at plain
  obtain ⟨⟨⟨letter, width⟩, octal⟩, name⟩ := plain
  simp [readEscape?, letter, width, octal, name]

theorem readName?_shortens {source value : List Char} {taken : Nat}
    (read : readName? named source = some (value, taken)) :
    value.length ≤ taken ∧ taken ≤ source.length + 1 := by
  cases source with
  | nil => exact absurd read (by simp [readName?])
  | cons c rest =>
    rw [readName?] at read
    split at read
    · rename_i ends
      obtain ⟨d, -, same⟩ := Option.map_eq_some_iff.mp read
      obtain ⟨rfl, rfl⟩ := Prod.mk.inj same
      have short := (Symbol.char d).length_written_le
      have within := ends.2
      simp only [List.length_cons]
      omega
    · exact absurd read (by simp)

/-- An escape is longer than what it stands for. -/
theorem readEscape?_shortens {c : Char} {rest value : List Char} {taken : Nat}
    (read : readEscape? named (c :: rest) = some (value, taken)) (escape : startsEscape c = true) :
    value.length ≤ taken ∧ taken ≤ rest.length + 1 := by
  rw [readEscape?] at read
  cases letter : escapeLetter? c with
  | some d =>
    simp only [letter, Option.some.injEq, Prod.mk.injEq] at read
    obtain ⟨rfl, rfl⟩ := read
    simp
  | none =>
    cases width : Yaml.escapeWidth? c with
    | some digits =>
      have wide : 2 ≤ digits := by
        simp only [Yaml.escapeWidth?] at width
        split at width <;> simp at width <;> omega
      simp only [letter, width] at read
      split at read
      · exact absurd read (by simp)
      · obtain ⟨n, -, found⟩ := Option.bind_eq_some_iff.mp read
        split at found
        · exact absurd found (by simp)
        · obtain ⟨rfl, rfl⟩ := Prod.mk.inj (Option.some.inj found)
          have short := (Symbol.ofNumber n).length_written_le
          omega
    | none =>
      simp only [letter, width] at read
      split at read
      · obtain ⟨rfl, rfl⟩ := Prod.mk.inj (Option.some.inj read)
        have few := (List.takeWhile_sublist isOctalDigit (l := rest.take 2)).length_le
        rw [List.length_take] at few
        simp only [List.length_singleton]
        omega
      split at read
      · exact readName?_shortens read
      · rename_i octal name
        exact absurd escape (by simp [startsEscape, letter, width, octal, name])

theorem literalValue?_length {skip : Nat} {source value : List Char}
    (read : literalValue? named skip source = some value) :
    value.length ≤ source.length - skip := by
  induction skip, source using literalValue?.induct generalizing value with
  | case1 skip => simp_all [literalValue?]
  | case2 skip c rest ih =>
    rw [literalValue?] at read
    have short := ih read
    simp only [List.length_cons]
    omega
  | case3 rest ih =>
    simp only [literalValue?, if_true] at read
    obtain ⟨⟨first, taken⟩, escape, later⟩ := Option.bind_eq_some_iff.mp read
    obtain ⟨more, behind, same⟩ := Option.bind_eq_some_iff.mp later
    obtain rfl := Option.some.inj same
    have short := ih taken behind
    cases rest with
    | nil => exact absurd escape (by simp [readEscape?])
    | cons c rest =>
      -- What is no escape stands for two characters, of which one is the backslash.
      have lengths : first.length ≤ taken + 1 ∧ taken ≤ rest.length + 1 := by
        cases plain : startsEscape c with
        | true =>
          have shortens := readEscape?_shortens escape plain
          omega
        | false =>
          rw [readEscape?_plain plain] at escape
          obtain ⟨rfl, rfl⟩ := Prod.mk.inj (Option.some.inj escape)
          simp
      simp only [List.length_append, List.length_cons] at short ⊢
      omega
  | case4 c rest plain ih =>
    simp only [literalValue?, plain, if_false] at read
    obtain ⟨more, behind, rfl⟩ := Option.map_eq_some_iff.mp read
    have short := ih behind
    simp only [List.length_cons]
    omega

theorem Inert.value {quote : Char} {body : List Char} (inert : Inert quote body) :
    literalValue? named 0 body = some body := by
  induction inert with
  | nil => simp [literalValue?]
  | char _ _ single _ ih => simp [literalValue?, single, ih]
  | backslash plain _ _ ih => simp [literalValue?, readEscape?_plain plain, ih]

/-- What is read as itself up to its closing quote holds nothing with a meaning of its own. -/
theorem inert_of_read {quote : Char} {skip : Nat} {body after : List Char}
    (value : literalValue? named skip body = some (body.drop skip))
    (closed : literalBody? quote false (body.drop skip ++ quote :: after) =
      some (body.drop skip, after)) : Inert quote (body.drop skip) := by
  induction skip, body using literalValue?.induct with
  | case1 skip =>
    rw [List.drop_nil]
    exact .nil
  | case2 skip c rest ih => exact ih value closed
  | case3 rest ih =>
    simp only [literalValue?, if_true, List.drop_zero] at value closed ⊢
    obtain ⟨⟨first, taken⟩, escape, later⟩ := Option.bind_eq_some_iff.mp value
    obtain ⟨more, behind, same⟩ := Option.bind_eq_some_iff.mp later
    have split := Option.some.inj same
    cases rest with
    | nil => exact absurd escape (by simp [readEscape?])
    | cons c rest =>
      cases plain : startsEscape c with
      | true =>
        -- The value is shorter than the body, so it cannot be the body.
        have shortens := readEscape?_shortens escape plain
        have short := literalValue?_length behind
        have lengths := congrArg List.length split
        simp only [List.length_append, List.length_cons] at short lengths
        omega
      | false =>
        rw [readEscape?_plain plain] at escape
        obtain ⟨rfl, rfl⟩ := Prod.mk.inj (Option.some.inj escape)
        obtain rfl : more = rest := by simpa using split
        obtain ⟨opened, -, inside⟩ := literalBody?_cons closed
        have backslash : (!false && decide ('\\' = '\\')) = true := by decide
        rw [backslash] at inside
        obtain ⟨-, whole, behindBoth⟩ := literalBody?_cons inside
        exact .backslash plain whole (ih 1 behind behindBoth)
  | case4 c rest plain ih =>
    simp only [literalValue?, plain, if_false, List.drop_zero] at value closed ih ⊢
    obtain ⟨more, behind, same⟩ := Option.map_eq_some_iff.mp value
    obtain ⟨-, rfl⟩ := List.cons.inj same
    obtain ⟨opened, whole, inside⟩ := literalBody?_cons closed
    have single : (!false && decide (c = '\\')) = false := by simp [plain]
    rw [single] at inside
    exact .char (fun same => opened ⟨same, rfl⟩) whole plain (ih behind inside)

/-- A quote closes a literal before the end of the line, so one that is no shorter than `value` does
not end behind it if no quote stands there. -/
theorem body_eq {value body after rest : List Char}
    (split : value ++ '"' :: after = body ++ '"' :: rest)
    (last : '"' ∉ after.takeWhile (· != '\n')) (whole : ∀ c ∈ body, breaksLiteral c = false)
    (long : value.length ≤ body.length) : body = value := by
  rcases List.append_eq_append_iff.mp split with ⟨more, longer, behind⟩ | ⟨more, shorter, -⟩
  · cases more with
    | nil => simpa using longer
    | cons c more =>
      have line : after = more ++ '"' :: rest := (List.cons.inj behind).2
      have passed : ∀ d ∈ more, (d != '\n') = true := by
        intro d member
        have held : d ∈ body := longer ▸ List.mem_append_right _ (List.mem_cons_of_mem _ member)
        refine bne_iff_ne.mpr fun newline => ?_
        exact absurd (whole d held) (by simp [newline, breaksLiteral])
      rw [line, List.takeWhile_append_of_pos passed] at last
      exact absurd (List.mem_append_right more (List.mem_cons_self ..)) last
  · have lengths := congrArg List.length shorter
    rw [List.length_append] at lengths
    obtain rfl : more = [] := List.length_eq_zero_iff.mp (by omega)
    simpa using shorter.symm

/-- A text between double quotes is read as itself exactly if it can be put there, as long as the
line goes on without another quote. -/
theorem readsAs_iff {value after : String}
    (last : '"' ∉ after.toList.takeWhile (· != '\n')) :
    ReadsAs named ("\"" ++ value ++ "\"" ++ after) value ↔ StandsInQuotes value := by
  have source : ("\"" ++ value ++ "\"" ++ after).toList =
      '"' :: (value.toList ++ '"' :: after.toList) := by simp
  rw [ReadsAs, source]
  simp only [readLiteral?, true_or, if_true]
  constructor
  · rintro ⟨rest, read⟩
    obtain ⟨⟨body, behind⟩, closed, later⟩ := Option.bind_eq_some_iff.mp read
    simp only at later
    split at later
    · rename_i encodable
      obtain ⟨decoded, valued, same⟩ := Option.bind_eq_some_iff.mp later
      obtain ⟨rfl, rfl⟩ := Prod.mk.inj (Option.some.inj same)
      obtain ⟨split, whole⟩ := literalBody?_split closed
      obtain rfl := body_eq split last whole (literalValue?_length valued)
      have together : behind = after.toList := by simpa using split.symm
      rw [String.ofList_toList] at encodable
      rw [together] at closed
      exact ⟨@inert_of_read _ _ 0 _ _ valued closed, encodable⟩
    · exact absurd later (by simp)
  · rintro ⟨inert, encodable⟩
    refine ⟨after.toList, ?_⟩
    rw [inert.body (by decide) after.toList]
    simp [String.ofList_toList, encodable, inert.value]

end Value

end Stagewright.Text
