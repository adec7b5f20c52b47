import Stagewright.Text.Identifier

/-!
What identifiers do not hold, so that text around them can be told from them.
-/

namespace Stagewright.Text

theorem isIdentifier_not_mem {s : String} {c : Char} (identifier : isIdentifier s)
    (start : isIdentifierStart c = false) (tail : isIdentifierTail c = false) : c ∉ s.toList := by
  intro member
  unfold isIdentifier at identifier
  split at identifier
  · exact absurd identifier (by simp)
  · rename_i first rest chars
    rw [chars] at member
    simp only [Bool.and_eq_true, List.all_eq_true] at identifier
    rcases List.mem_cons.mp member with rfl | later
    · simp [start] at identifier
    · have inside := identifier.2 c later
      simp [tail] at inside

theorem isIdentifier_no_quote {s : String} (identifier : isIdentifier s) : '"' ∉ s.toList :=
  isIdentifier_not_mem identifier (by decide) (by decide)

theorem isIdentifier_no_colon {s : String} (identifier : isIdentifier s) : ':' ∉ s.toList :=
  isIdentifier_not_mem identifier (by decide) (by decide)

theorem isIdentifier_ne_empty {s : String} (identifier : isIdentifier s) : s ≠ "" := by
  rintro rfl
  exact absurd identifier (by decide)

/-- Text in front of the first separator is known from the whole. -/
theorem eq_of_separated {a b : String} {c : Char} {rest more : List Char} (plain : c ∉ a.toList)
    (otherPlain : c ∉ b.toList) (same : a.toList ++ c :: rest = b.toList ++ c :: more) :
    a = b := by
  refine String.toList_inj.mp ?_
  rcases List.append_eq_append_iff.mp same with ⟨between, longer, split⟩ | ⟨between, longer, split⟩
  · cases between with
    | nil => simpa using longer.symm
    | cons d between =>
      obtain ⟨rfl, -⟩ := List.cons.inj split
      exact absurd (by simp [longer]) otherPlain
  · cases between with
    | nil => simpa using longer
    | cons d between =>
      obtain ⟨rfl, -⟩ := List.cons.inj split
      exact absurd (by simp [longer]) plain

end Stagewright.Text
