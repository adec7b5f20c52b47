import Stagewright.Proofs.Text.Lines
import Stagewright.Text.Quoted

/-!
Texts of which every character shows. A literal is one of them, whatever it denotes, so it never
breaks its line.
-/

namespace Stagewright.Text

/-- Text that holds nothing but printable characters. -/
def Shows (s : String) : Prop := ∀ c ∈ s.toList, isPrintable c = true

instance (s : String) : Decidable (Shows s) := List.decidableBAll _ s.toList

theorem Shows.oneLine {s : String} (shows : Shows s) : OneLine s := by
  intro member
  exact absurd (shows '\n' member) (by decide)

@[simp] theorem shows_append {a b : String} : Shows (a ++ b) ↔ Shows a ∧ Shows b := by
  simp only [Shows, String.toList_append, List.forall_mem_append]

theorem shows_ofList {cs : List Char} : Shows (String.ofList cs) ↔ ∀ c ∈ cs, isPrintable c := by
  rw [Shows, String.toList_ofList]

theorem Shows.between {opening inner closing : String} (left : Shows opening) (middle : Shows inner)
    (right : Shows closing) : Shows (opening ++ inner ++ closing) :=
  shows_append.mpr ⟨shows_append.mpr ⟨left, middle⟩, right⟩

theorem Shows.intercalate {separator : String} {pieces : List String} (apart : Shows separator)
    (each : ∀ piece ∈ pieces, Shows piece) : Shows (separator.intercalate pieces) :=
  forall_mem_toList_intercalate apart each

theorem inRuns_second {outside inside n : Nat} {runs : List Nat} (low : outside ≤ n)
    (high : n < outside + inside) : inRuns (outside :: inside :: runs) n false = true := by
  have past : ¬n < outside := by omega
  have within : n - outside < inside := by omega
  simp [inRuns, past, within]

/-- The printable characters begin with those of the Latin script. -/
theorem isPrintable_latin {c : Char} (low : 32 ≤ c.toNat) (high : c.toNat < 127) :
    isPrintable c = true := by
  rw [isPrintable, memRuns, printableRuns]
  exact inRuns_second low high

theorem isPrintable_digit {c : Char} (digit : c.isDigit = true) : isPrintable c = true := by
  simp only [Char.isDigit, Bool.and_eq_true, decide_eq_true_eq, UInt32.le_iff_toNat_le] at digit
  obtain ⟨low, high⟩ := digit
  have above : 48 ≤ c.toNat := low
  have below : c.toNat ≤ 57 := high
  exact isPrintable_latin (by omega) (by omega)

theorem isPrintable_hexDigit : ∀ n < 16, isPrintable (hexDigit n) = true := by
  decide

theorem isPrintable_hexDigits (width n : Nat) : ∀ c ∈ hexDigits width n, isPrintable c = true := by
  induction width generalizing n with
  | zero => simp [hexDigits]
  | succ width ih =>
    rw [hexDigits, List.forall_mem_append]
    refine ⟨ih (n / 16), ?_⟩
    intro c member
    rw [List.mem_singleton.mp member]
    exact isPrintable_hexDigit _ (Nat.mod_lt n (by decide))

theorem isPrintable_escapeNumber (n : Nat) : ∀ c ∈ escapeNumber n, isPrintable c = true := by
  have mark {letter : Char} (shown : isPrintable letter = true) (width : Nat) :
      ∀ c ∈ '\\' :: letter :: hexDigits width n, isPrintable c = true := by
    rw [List.forall_mem_cons, List.forall_mem_cons]
    exact ⟨by decide, shown, isPrintable_hexDigits width n⟩
  unfold escapeNumber
  split
  · exact mark (by decide) 2
  · split
    · exact mark (by decide) 4
    · exact mark (by decide) 8

theorem isPrintable_quoteFor (cs : List Char) : isPrintable (quoteFor cs) = true := by
  unfold quoteFor
  split <;> decide

theorem isPrintable_escapeSymbol {quote : Char} (shown : isPrintable quote = true) (s : Symbol) :
    ∀ c ∈ escapeSymbol quote s, isPrintable c = true := by
  cases s with
  | half place => exact isPrintable_escapeNumber _
  | char c =>
    intro d member
    have marked {letter : Char} (shown : isPrintable letter = true) (held : d ∈ ['\\', letter]) :
        isPrintable d = true := by
      rcases List.mem_cons.mp held with rfl | second
      · decide
      · rwa [List.mem_singleton.mp second]
    simp only [escapeSymbol] at member
    split at member
    · rename_i special
      rcases special with rfl | rfl
      · exact marked shown member
      · exact marked (by decide) member
    split at member
    · exact marked (by decide) member
    split at member
    · exact marked (by decide) member
    split at member
    · exact marked (by decide) member
    split at member
    · rwa [List.mem_singleton.mp member]
    · exact isPrintable_escapeNumber _ d member

theorem shows_literal (s : String) : Shows (literal s) := by
  have quote := isPrintable_quoteFor s.toList
  rw [literal, shows_ofList, literalChars, List.cons_append, List.forall_mem_cons,
    List.forall_mem_append, List.forall_mem_singleton]
  refine ⟨quote, ?_, quote⟩
  intro c member
  obtain ⟨symbol, -, escaped⟩ := List.mem_flatMap.mp member
  exact isPrintable_escapeSymbol quote symbol c escaped

end Stagewright.Text
