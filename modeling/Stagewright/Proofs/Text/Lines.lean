import Mathlib.Data.List.TakeWhile
import Stagewright.Text.Blank
import Stagewright.Text.Lines

/-!
Texts on one line, and joined lines read back as lines.
-/

namespace Stagewright.Text

theorem splitChars_eq_splitOn (separator : Char) (cs : List Char) :
    splitChars separator cs = cs.splitOn separator := by
  induction cs with
  | nil => rfl
  | cons c rest ih =>
    rw [List.splitOn_cons_eq_if_modifyHead, splitChars, ih]
    by_cases here : c = separator
    · simp [here]
    · obtain ⟨piece, pieces, split⟩ :=
        List.exists_cons_of_ne_nil (List.splitOn_ne_nil separator rest)
      simp [here, split]

/-- Text without a newline. -/
def OneLine (s : String) : Prop := '\n' ∉ s.toList

instance (s : String) : Decidable (OneLine s) := inferInstanceAs (Decidable (_ ∉ _))

@[simp] theorem oneLine_append {a b : String} : OneLine (a ++ b) ↔ OneLine a ∧ OneLine b := by
  simp [OneLine, not_or]

theorem OneLine.between {opening inner closing : String} (left : OneLine opening)
    (middle : OneLine inner) (right : OneLine closing) : OneLine (opening ++ inner ++ closing) :=
  oneLine_append.mpr ⟨oneLine_append.mpr ⟨left, middle⟩, right⟩

/-- What holds of all that pieces and what separates them are made of holds of the whole. -/
theorem forall_mem_intercalate {α : Type} {p : α → Prop} {separator : List α}
    {pieces : List (List α)} (apart : ∀ a ∈ separator, p a)
    (each : ∀ piece ∈ pieces, ∀ a ∈ piece, p a) : ∀ a ∈ separator.intercalate pieces, p a := by
  induction pieces with
  | nil => exact List.forall_mem_nil _
  | cons piece rest ih =>
    have first := each piece List.mem_cons_self
    have later := ih fun other member => each other (List.mem_cons_of_mem _ member)
    cases rest with
    | nil => rwa [List.intercalate_singleton]
    | cons other rest =>
      rw [List.intercalate_cons_cons, List.forall_mem_append, List.forall_mem_append]
      exact ⟨⟨first, apart⟩, later⟩

theorem forall_mem_toList_intercalate {p : Char → Prop} {separator : String} {pieces : List String}
    (apart : ∀ c ∈ separator.toList, p c) (each : ∀ piece ∈ pieces, ∀ c ∈ piece.toList, p c) :
    ∀ c ∈ (separator.intercalate pieces).toList, p c := by
  rw [String.toList_intercalate]
  exact forall_mem_intercalate apart (List.forall_mem_map.mpr each)

theorem OneLine.intercalate {separator : String} {pieces : List String} (apart : OneLine separator)
    (each : ∀ piece ∈ pieces, OneLine piece) : OneLine (separator.intercalate pieces) := by
  have other {s : String} (one : OneLine s) : ∀ c ∈ s.toList, c ≠ '\n' :=
    fun _ member same => one (same ▸ member)
  intro newline
  exact forall_mem_toList_intercalate (other apart)
    (fun piece member => other (each piece member)) _ newline rfl

theorem mem_trimChars {c : Char} {cs : List Char} (member : c ∈ trimChars cs) : c ∈ cs := by
  have inner := (List.dropWhile_suffix _).subset (List.mem_reverse.mp member)
  exact (List.dropWhile_suffix _).subset (List.mem_reverse.mp inner)

theorem OneLine.trim {s : String} (one : OneLine s) : OneLine (trim s) := by
  intro member
  rw [Text.trim, String.toList_ofList] at member
  exact one (mem_trimChars member)

/-- Lines that have been joined are read back. -/
theorem lines_unlines {ls : List String} (some : ls ≠ []) (each : ∀ l ∈ ls, OneLine l) :
    lines (unlines ls) = ls := by
  have apart : ∀ cs ∈ ls.map String.toList, '\n' ∉ cs := by
    intro cs member
    obtain ⟨l, held, rfl⟩ := List.mem_map.mp member
    exact each l held
  have split : (unlines ls).toList.splitOn '\n' = ls.map String.toList := by
    rw [unlines, String.toList_intercalate]
    exact List.splitOn_intercalate '\n' apart (by simpa using some)
  rw [lines, splitChars_eq_splitOn, split]
  simp [Function.comp_def]

end Stagewright.Text
