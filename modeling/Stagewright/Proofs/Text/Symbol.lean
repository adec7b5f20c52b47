import Stagewright.Text.Symbol

/-!
The characters that a text of symbols is written in. Whatever is looked for by characters that no
half of a pair is written in is found at whole symbols.
-/

namespace Stagewright.Text

/-- The characters of a text, given by its symbols. -/
def inChars (text : List Symbol) : List Char := text.flatMap Symbol.written

@[simp] theorem inChars_nil : inChars [] = [] := rfl

@[simp] theorem inChars_cons (s : Symbol) (text : List Symbol) :
    inChars (s :: text) = s.written ++ inChars text := rfl

@[simp] theorem inChars_append (a b : List Symbol) : inChars (a ++ b) = inChars a ++ inChars b :=
  List.flatMap_append

theorem toList_ofSymbols (text : List Symbol) : (ofSymbols text).toList = inChars text :=
  String.toList_ofList

theorem symbolCount_inChars (text : List Symbol) : symbolCount (inChars text) = text.length := by
  rw [symbolCount, inChars, symbols_written]

/-- Halves are written far from the characters that have a meaning of their own. -/
theorem Symbol.half_written {place : Fin 0x800} {c : Char}
    (member : c ∈ (Symbol.half place).written) : 0xd7ff ≤ c.toNat := by
  rcases List.mem_cons.mp member with rfl | second
  · decide
  · have valid : Nat.isValidChar (0xe000 + place) := by right; omega
    have number : (Char.ofNat (0xe000 + place)).toNat = 0xe000 + place := by
      rw [Char.ofNat, dif_pos valid]
      rfl
    rw [List.mem_singleton.mp second, number]
    omega

theorem Symbol.ne_of_mem_half {place : Fin 0x800} {c d : Char}
    (member : c ∈ (Symbol.half place).written) (plain : d.toNat < 0xd7ff) : c ≠ d := by
  have large := Symbol.half_written member
  rintro rfl
  omega

theorem Symbol.written_char {c : Char} (plain : c ≠ halfMark) : (Symbol.char c).written = [c] :=
  if_neg plain

theorem Symbol.mem_written_char {c d : Char} : d ∈ (Symbol.char c).written ↔ d = c := by
  by_cases mark : c = halfMark
  · simp [Symbol.written, mark]
  · simp [Symbol.written_char mark]

theorem Symbol.written_ne_nil (s : Symbol) : s.written ≠ [] := by
  cases s with
  | char c =>
    have own := Symbol.mem_written_char.mpr (rfl : c = c)
    exact List.ne_nil_of_mem own
  | half place => simp [Symbol.written]

/-- A character below the mark stands for itself. -/
theorem inChars_eq_cons {text : List Symbol} {c : Char} {cs : List Char} (plain : c.toNat < 0xd7ff)
    (same : inChars text = c :: cs) : ∃ rest, text = .char c :: rest ∧ inChars rest = cs := by
  cases text with
  | nil => simp at same
  | cons s rest =>
    have first : c ∈ s.written := by
      obtain ⟨d, ds, atHead⟩ := List.exists_cons_of_ne_nil s.written_ne_nil
      rw [inChars_cons, atHead, List.cons_append] at same
      rw [atHead, (List.cons.inj same).1]
      exact List.mem_cons_self
    cases s with
    | half place => exact absurd rfl (Symbol.ne_of_mem_half first plain)
    | char d =>
      obtain rfl := Symbol.mem_written_char.mp first
      have notMark : c ≠ halfMark := by
        rintro rfl
        exact absurd plain (by decide)
      rw [inChars_cons, Symbol.written_char notMark] at same
      exact ⟨rest, rfl, (List.cons.inj same).2⟩

/-- The symbols whose characters all have a property. -/
def Symbol.every (p : Char → Bool) (s : Symbol) : Bool := s.written.all p

theorem Symbol.every_char (p : Char → Bool) (c : Char) : (Symbol.char c).every p = p c := by
  have all : ((Symbol.char c).every p = true) ↔ p c = true := by
    simp [Symbol.every, List.all_eq_true, Symbol.mem_written_char]
  exact Bool.eq_iff_iff.mpr all

section Runs

variable {p : Char → Bool} (halves : ∀ place : Fin 0x800, (Symbol.half place).every p = true)

include halves

/-- A symbol without the property is a character without it. -/
theorem Symbol.eq_char_of_not_every {s : Symbol} (fails : s.every p = false) :
    ∃ c cs, s = .char c ∧ s.written = c :: cs ∧ p c = false := by
  cases s with
  | half place => simp [halves place] at fails
  | char c =>
    rw [Symbol.every_char] at fails
    by_cases mark : c = halfMark
    · exact ⟨c, [c], rfl, if_pos mark, fails⟩
    · exact ⟨c, [], rfl, if_neg mark, fails⟩

/-- A longest run of characters is one of symbols. -/
theorem span_inChars (text : List Symbol) :
    (inChars text).takeWhile p = inChars (text.takeWhile (Symbol.every p)) ∧
      (inChars text).dropWhile p = inChars (text.dropWhile (Symbol.every p)) := by
  induction text with
  | nil => exact ⟨rfl, rfl⟩
  | cons s rest ih =>
    cases holds : s.every p with
    | true =>
      have all : ∀ c ∈ s.written, p c = true := List.all_eq_true.mp holds
      rw [inChars_cons, List.takeWhile_append_of_pos all, List.dropWhile_append_of_pos all,
        List.takeWhile_cons_of_pos holds, List.dropWhile_cons_of_pos holds, ih.1, ih.2]
      exact ⟨rfl, rfl⟩
    | false =>
      obtain ⟨c, cs, -, written, fails⟩ := Symbol.eq_char_of_not_every halves holds
      have stops : ¬s.every p = true := by simp [holds]
      have stopsHere : ¬p c = true := by simp [fails]
      rw [List.takeWhile_cons_of_neg stops, List.dropWhile_cons_of_neg stops, inChars_cons,
        written, List.cons_append, List.takeWhile_cons_of_neg stopsHere,
        List.dropWhile_cons_of_neg stopsHere]
      exact ⟨rfl, by simp⟩

end Runs

end Stagewright.Text
