/-!
What a text is made of: characters, and halves of surrogate pairs. An escape can ask for a half
alone, though it is no character and has no form in bytes. In a text a half is written as two
characters, a mark and a private one, and the mark itself as two marks. So texts of different
symbols are different (`symbols_written`), and they stand in the order of their symbols' numbers.
-/

namespace Stagewright.Text

/-- A character, or a half of a surrogate pair by its place among the halves. -/
inductive Symbol where
  | char (c : Char)
  | half (place : Fin 0x800)
deriving DecidableEq, Repr

/-- What is written in front of a half, or of itself: the last character before the halves. -/
def halfMark : Char := '\ud7ff'

namespace Symbol

def number : Symbol → Nat
  | .char c => c.toNat
  | .half place => 0xd800 + place

def ofNumber (n : Nat) : Symbol :=
  if h : 0xd800 ≤ n ∧ n < 0xe000 then .half ⟨n - 0xd800, by omega⟩ else .char (Char.ofNat n)

/-- A symbol as it stands in a text. -/
def written : Symbol → List Char
  | .char c => if c = halfMark then [c, c] else [c]
  | .half place => [halfMark, Char.ofNat (0xe000 + place)]

/-- The symbol that a character after the mark stands for. -/
def ofMarked (c : Char) : Symbol :=
  if h : 0xe000 ≤ c.toNat ∧ c.toNat < 0xe800 then .half ⟨c.toNat - 0xe000, by omega⟩ else .char c

def char? : Symbol → Option Char
  | .char c => some c
  | .half _ => none

/-- The bytes of a symbol: none for a half. -/
def bytes : Symbol → List UInt8
  | .char c => String.utf8EncodeChar c
  | .half _ => []

end Symbol

/-- The symbols of a text. -/
def symbols : List Char → List Symbol
  | [] => []
  | [c] => [.char c]
  | c :: d :: rest =>
    if c = halfMark then .ofMarked d :: symbols rest else .char c :: symbols (d :: rest)

theorem Symbol.ofMarked_half (place : Fin 0x800) :
    ofMarked (Char.ofNat (0xe000 + place)) = .half place := by
  have valid : Nat.isValidChar (0xe000 + place) := by right; omega
  have number : (Char.ofNat (0xe000 + place)).toNat = 0xe000 + place := by
    rw [Char.ofNat, dif_pos valid]
    rfl
  simp only [ofMarked, number]
  rw [dif_pos (by omega)]
  simp

theorem symbols_cons (s : Symbol) (rest : List Char) :
    symbols (s.written ++ rest) = s :: symbols rest := by
  cases s with
  | char c =>
    by_cases mark : c = halfMark
    · subst mark; simp [Symbol.written, symbols, Symbol.ofMarked, halfMark]
    · cases rest <;> simp [Symbol.written, symbols, mark]
  | half place => simp [Symbol.written, symbols, Symbol.ofMarked_half]

/-- A text gives back what has been written. -/
theorem symbols_written (all : List Symbol) : symbols (all.flatMap Symbol.written) = all := by
  induction all with
  | nil => rfl
  | cons s rest ih => rw [List.flatMap_cons, symbols_cons, ih]

/-- The text of symbols. -/
def ofSymbols (symbols : List Symbol) : String := String.ofList (symbols.flatMap Symbol.written)

/-- The text of characters. -/
def ofChars (cs : List Char) : String := ofSymbols (cs.map .char)

/-- How many symbols characters of a text stand for. -/
def symbolCount (cs : List Char) : Nat := (symbols cs).length

/-- The characters of a text without halves. -/
def chars? (s : String) : Option (List Char) := (symbols s.toList).mapM Symbol.char?

/-- Whether a text has a form in bytes. -/
def isEncodable (s : String) : Bool := (chars? s).isSome

/-- The bytes of a text. -/
def bytes (s : String) : List UInt8 := (symbols s.toList).flatMap Symbol.bytes

end Stagewright.Text
