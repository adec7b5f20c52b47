import Stagewright.Proofs.Text.Printable
import Stagewright.Value.Spelling

/-!
Of the values of a configuration only a text can break its line where it is written out. Every
character of the others shows.
-/

namespace Stagewright

open Text

theorem isPrintable_toDigits (n : Nat) : ∀ c ∈ Nat.toDigits 10 n, isPrintable c = true :=
  fun _ member => isPrintable_digit
    (Nat.isDigit_of_mem_toDigits (by decide) (by decide) member)

theorem isPrintable_replicate {c : Char} (n : Nat) (shown : isPrintable c = true) :
    ∀ d ∈ List.replicate n c, isPrintable d = true := by
  intro d member
  rw [List.eq_of_mem_replicate member]
  exact shown

theorem shows_nat (n : Nat) : Shows (toString n) := by
  intro c member
  rw [Nat.toString_eq_repr, Nat.toList_repr] at member
  exact isPrintable_toDigits n c member

theorem shows_int (n : Int) : Shows (toString n) := by
  cases n with
  | ofNat n => exact shows_nat n
  | negSucc n => exact shows_append.mpr ⟨by decide, shows_nat (n + 1)⟩

theorem shows_padded (width n : Nat) : Shows (padded width n) := by
  rw [padded, shows_ofList, List.forall_mem_append]
  exact ⟨isPrintable_replicate _ (by decide), isPrintable_toDigits n⟩

theorem Date.shows_text (d : Date) : Shows d.text := by
  have month : Shows (padded 4 d.year ++ "-" ++ padded 2 d.month) :=
    .between (shows_padded 4 _) (by decide) (shows_padded 2 _)
  exact .between month (by decide) (shows_padded 2 _)

theorem DateTime.shows_text (t : DateTime) : Shows t.text := by
  have colon : Shows ":" := by decide
  have fraction : Shows (if t.microsecond = 0 then "" else "." ++ padded 6 t.microsecond) := by
    split
    · decide
    · exact shows_append.mpr ⟨by decide, shows_padded 6 _⟩
  have hour : Shows (t.date.text ++ " " ++ padded 2 t.hour) :=
    .between t.date.shows_text (by decide) (shows_padded 2 _)
  have minute := Shows.between hour colon (shows_padded 2 t.minute)
  have second := Shows.between minute colon (shows_padded 2 t.second)
  refine .between second fraction ?_
  split
  · decide
  · rename_i minutes _
    have sign : Shows (if minutes < 0 then "-" else "+") := by split <;> decide
    have hours : Shows ((if minutes < 0 then "-" else "+") ++ padded 2 (minutes.natAbs / 60)) :=
      shows_append.mpr ⟨sign, shows_padded 2 _⟩
    exact .between hours colon (shows_padded 2 _)

theorem Date.shows_literal (d : Date) : Shows d.literal := by
  have fields : ∀ field ∈ [d.year, d.month, d.day].map toString, Shows field := by
    intro field member
    obtain ⟨n, -, rfl⟩ := List.mem_map.mp member
    exact shows_nat n
  exact .between (by decide) (.intercalate (by decide) fields) (by decide)

theorem shows_spanLiteral (minutes : Int) : Shows (spanLiteral minutes) := by
  have field (name : String) (shown : Shows name) (n : Int) :
      ∀ piece ∈ if n = 0 then [] else [name ++ toString n], Shows piece := by
    split
    · exact List.forall_mem_nil _
    · exact List.forall_mem_singleton.mpr (shows_append.mpr ⟨shown, shows_int n⟩)
  unfold spanLiteral
  extract_lets days seconds fields inside
  have shown : Shows inside := by
    unfold inside
    split
    · decide
    · refine .intercalate (by decide) (List.forall_mem_append.mpr ⟨?_, ?_⟩)
      · exact field "days=" (by decide) days
      · exact field "seconds=" (by decide) seconds
  exact .between (by decide) shown (by decide)

theorem DateTime.shows_literal (t : DateTime) : Shows t.literal := by
  unfold literal
  extract_lets seconds fields zone
  have numbers : ∀ piece ∈ fields.map toString, Shows piece := by
    intro piece member
    obtain ⟨n, -, rfl⟩ := List.mem_map.mp member
    exact shows_nat n
  have zoned : ∀ piece ∈ zone, Shows piece := by
    unfold zone
    split
    · exact List.forall_mem_nil _
    · exact List.forall_mem_singleton.mpr (by decide)
    · rename_i minutes _ _
      exact List.forall_mem_singleton.mpr
        (.between (by decide) (shows_spanLiteral minutes) (by decide))
  have parts := Shows.intercalate (by decide : Shows ", ")
    (List.forall_mem_append.mpr ⟨numbers, zoned⟩)
  exact .between (by decide) parts (by decide)

namespace Binary64

theorem shows_layout {digits : List Char} (shown : ∀ c ∈ digits, isPrintable c = true)
    (point : Int) : Shows (layout digits point) := by
  have zeros (n : Nat) : ∀ c ∈ List.replicate n '0', isPrintable c = true :=
    isPrintable_replicate n (by decide)
  unfold layout
  extract_lets exponent zerosOf size head power
  split
  · rw [shows_ofList]
    split
    · rw [List.cons_append, List.cons_append, List.forall_mem_cons, List.forall_mem_cons,
        List.forall_mem_append]
      exact ⟨by decide, by decide, zeros _, shown⟩
    split
    · rw [List.forall_mem_append, List.forall_mem_append, List.forall_mem_cons,
        List.forall_mem_singleton]
      exact ⟨⟨shown, zeros _⟩, by decide, by decide⟩
    · rw [List.forall_mem_append, List.forall_mem_cons]
      exact ⟨fun c member => shown c (List.mem_of_mem_take member), by decide,
        fun c member => shown c (List.mem_of_mem_drop member)⟩
  · have leading : ∀ c ∈ head, isPrintable c = true := by
      unfold head
      split
      · exact List.forall_mem_nil _
      · exact shown
      · rw [List.forall_mem_cons, List.forall_mem_cons]
        exact ⟨shown _ List.mem_cons_self, by decide,
          fun c member => shown c (List.mem_cons_of_mem _ member)⟩
    have sign : isPrintable (if exponent < 0 then '-' else '+') = true := by split <;> decide
    rw [shows_ofList, List.append_assoc, List.forall_mem_append, List.cons_append,
      List.forall_mem_cons, List.cons_append, List.forall_mem_cons, List.forall_mem_append]
    exact ⟨leading, by decide, sign, zeros _, isPrintable_toDigits _⟩

theorem shows_text (x : Binary64) : Shows x.text := by
  unfold text
  split
  · decide
  extract_lets sign
  have signed : Shows sign := by unfold sign; split <;> decide
  split
  · exact shows_append.mpr ⟨signed, by decide⟩
  split
  · exact shows_append.mpr ⟨signed, by decide⟩
  · refine shows_append.mpr ⟨signed, shows_layout ?_ _⟩
    intro c member
    have kept := (List.dropWhile_suffix _).subset (List.mem_reverse.mp member)
    exact isPrintable_toDigits _ c (List.mem_reverse.mp kept)

end Binary64

theorem shows_bytesLiteral (data : List UInt8) : Shows (bytesLiteral data) := by
  unfold bytesLiteral
  extract_lets quote
  have shown : isPrintable quote = true := isPrintable_quoteFor _
  have escaped (b : UInt8) : ∀ c ∈ escapeByte quote b, isPrintable c = true := by
    have marked {letter : Char} (plain : isPrintable letter = true) :
        ∀ c ∈ ['\\', letter], isPrintable c = true := by
      rw [List.forall_mem_cons, List.forall_mem_singleton]
      exact ⟨by decide, plain⟩
    unfold escapeByte
    extract_lets c
    split
    · rename_i special
      have plain : isPrintable c = true := by
        rcases special with same | same
        · rwa [same]
        · rw [same]
          decide
      exact marked plain
    split
    · exact marked (by decide)
    split
    · exact marked (by decide)
    split
    · exact marked (by decide)
    split
    · rename_i latin
      have valid : b.toNat.isValidChar := .inl (by omega)
      have number : c.toNat = b.toNat := by
        unfold c
        rw [Char.ofNat, dif_pos valid]
        rfl
      exact List.forall_mem_singleton.mpr (isPrintable_latin (by omega) (by omega))
    · rw [List.forall_mem_cons, List.forall_mem_cons]
      exact ⟨by decide, by decide, isPrintable_hexDigits 2 _⟩
  rw [shows_ofList, List.cons_append, List.cons_append, List.forall_mem_cons,
    List.forall_mem_cons, List.forall_mem_append, List.forall_mem_singleton]
  refine ⟨by decide, shown, ?_, shown⟩
  intro c member
  obtain ⟨b, -, inside⟩ := List.mem_flatMap.mp member
  exact escaped b c inside

theorem Scalar.shows_literal (s : Scalar) : Shows s.literal := by
  cases s with
  | null => decide
  | bool b => cases b <;> decide
  | int n => exact shows_int n
  | float x => exact x.shows_text
  | text s => exact Text.shows_literal s
  | bytes data => exact shows_bytesLiteral data
  | date d => exact d.shows_literal
  | dateTime t => exact t.shows_literal

theorem Collection.shows_dots (collection : Collection) : Shows collection.dots := by
  cases collection <;> decide

namespace Value

mutual

theorem shows_literal : (v : Value) → Shows v.literal
  | .scalar s => s.shows_literal
  | .list items => by
    have pieces := Shows.intercalate (by decide : Shows ", ") (shows_literals items)
    rw [literal]
    exact Shows.between (by decide) pieces (by decide)
  | .pair a b => by
    have first := Shows.between (by decide : Shows "(") (shows_literal a) (by decide : Shows ", ")
    rw [literal]
    exact .between first (shows_literal b) (by decide)
  | .set members => by
    have each : ∀ piece ∈ members.map Scalar.literal, Shows piece := by
      intro piece member
      obtain ⟨s, -, rfl⟩ := List.mem_map.mp member
      exact s.shows_literal
    rw [literal]
    split
    · decide
    · exact Shows.between (by decide) (.intercalate (by decide) each) (by decide)
  | .map entries => by
    have pieces := Shows.intercalate (by decide : Shows ", ") (shows_entryLiterals entries)
    rw [literal]
    exact Shows.between (by decide) pieces (by decide)
  | .again collection => by
    rw [literal]
    exact collection.shows_dots

theorem shows_literals : (items : List Value) → ∀ piece ∈ literals items, Shows piece
  | [] => by
    rw [literals]
    exact List.forall_mem_nil _
  | v :: rest => by
    rw [literals]
    exact List.forall_mem_cons.mpr ⟨shows_literal v, shows_literals rest⟩

theorem shows_entryLiterals :
    (entries : List (Scalar × Value)) → ∀ piece ∈ entryLiterals entries, Shows piece
  | [] => by
    rw [entryLiterals]
    exact List.forall_mem_nil _
  | (k, v) :: rest => by
    have entry := Shows.between k.shows_literal (by decide : Shows ": ") (shows_literal v)
    rw [entryLiterals]
    exact List.forall_mem_cons.mpr ⟨entry, shows_entryLiterals rest⟩

end

/-- Only a text can break its line where it is written out. -/
theorem oneLine_spell {v : Value} (one : ∀ s, v = .text s → OneLine s) : OneLine v.spell := by
  cases v with
  | scalar s =>
    cases s with
    | text s => exact one s rfl
    | date d => exact d.shows_text.oneLine
    | dateTime t => exact t.shows_text.oneLine
    | _ => exact (Scalar.shows_literal _).oneLine
  | _ => exact (shows_literal _).oneLine

end Value

end Stagewright
