import Mathlib.Data.List.TakeWhile
import Stagewright.Text.Blank

/-!
What trimming leaves of a text: nothing of white space, and otherwise all that shows.
-/

namespace Stagewright.Text

theorem mem_dropWhile_isBlank {c : Char} {cs : List Char} (member : c ∈ cs)
    (shows : isBlank c = false) : c ∈ cs.dropWhile isBlank := by
  rw [← List.takeWhile_append_dropWhile (p := isBlank) (l := cs), List.mem_append] at member
  refine member.resolve_left fun before => ?_
  simp [List.mem_takeWhile_imp before] at shows

/-- What is no white space is not trimmed away. -/
theorem mem_trim {s : String} {c : Char} (member : c ∈ s.toList) (shows : isBlank c = false) :
    c ∈ (trim s).toList := by
  have front := mem_dropWhile_isBlank member shows
  have back := mem_dropWhile_isBlank (List.mem_reverse.mpr front) shows
  simpa [trim, trimChars] using back

theorem trim_ne_empty {s : String} {c : Char} (member : c ∈ s.toList) (shows : isBlank c = false) :
    trim s ≠ "" := by
  intro empty
  have kept := mem_trim member shows
  rw [empty] at kept
  exact absurd kept (by simp)

theorem exists_shows_of_not_blank {s : String} (shows : isBlankText s = false) :
    ∃ c ∈ s.toList, isBlank c = false := by
  simpa [isBlankText] using shows

theorem trim_of_blank {s : String} (blank : isBlankText s = true) : trim s = "" := by
  have gone : s.toList.dropWhile isBlank = [] :=
    List.dropWhile_eq_nil_iff.mpr (List.all_eq_true.mp blank)
  rw [trim, trimChars, gone]
  rfl

/-- Only white space is trimmed to nothing. -/
theorem trim_eq_empty_iff {s : String} : trim s = "" ↔ isBlankText s = true := by
  refine ⟨fun empty => ?_, trim_of_blank⟩
  cases blank : isBlankText s with
  | true => rfl
  | false =>
    obtain ⟨c, member, shows⟩ := exists_shows_of_not_blank blank
    exact absurd empty (trim_ne_empty member shows)

theorem isBlankText_append (s t : String) :
    isBlankText (s ++ t) = (isBlankText s && isBlankText t) := by
  simp [isBlankText]

theorem isBlankText_trim (s : String) : isBlankText (trim s) = isBlankText s := by
  cases blank : isBlankText s with
  | true =>
    rw [trim_of_blank blank]
    rfl
  | false =>
    obtain ⟨c, member, shows⟩ := exists_shows_of_not_blank blank
    refine List.all_eq_false.mpr ⟨c, mem_trim member shows, ?_⟩
    simp [shows]

end Stagewright.Text
