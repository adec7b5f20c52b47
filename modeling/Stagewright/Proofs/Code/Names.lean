import Mathlib.Data.List.Nodup
import Stagewright.Code.Program
import Stagewright.Proofs.Code.Collision
import Stagewright.Text.Identifier

/-!
The names that a stage takes for its variables: all of them different, and none of them a name of
the text around the stages. Nothing keeps a record of names that are taken, so this rests on the
stems alone, and so does the one pair of names that two stages can share.
-/

namespace Stagewright.Code

namespace Program

/-- The names that the text around the stages binds. -/
def ownNames : List String :=
  ["logging", "log", "run", "context", "global_map", "JobContext", "DataSourceNotFoundError",
    "connection_metadata"]

/-- The longest runs of characters that a name can hold. -/
def wordsOf (line : List Char) : List (List Char) :=
  (line.splitOnP (!Text.isIdentifierTail ·)).filter (!·.isEmpty)

/-- The words around the stages, apart from the name of the job. -/
def words : List (List Char) := (preamble "").flatMap (wordsOf ·.toList)

theorem ownNames_words : ∀ name ∈ ownNames, name.toList ∈ words := by
  decide +kernel

/-- No word around the stages begins as a variable of a stage does. -/
theorem words_without_lead :
    ∀ word ∈ words, ∀ slot ∈ Slot.all, slot.lead.isPrefixOf word = false := by
  decide +kernel

end Program

namespace Local

/-- A variable is no word of the text around the stages, whatever the cid. -/
theorem toList_text_not_word (x : Local) : x.text.toList ∉ Program.words := by
  intro word
  have begins : x.slot.lead.isPrefixOf x.text.toList = true :=
    List.isPrefixOf_iff_prefix.mpr ⟨_, x.toList_text.symm⟩
  rw [Program.words_without_lead _ word _ x.slot.mem_all] at begins
  exact Bool.noConfusion begins

end Local

namespace Names

theorem nodup_all (names : Names) : names.all.Nodup := by
  have slots : Slot.all.Nodup := by decide
  exact slots.map_on fun _ _ _ _ same => congrArg Local.slot same

/-- Variables of one cid do not clash: no cid continues itself. -/
theorem nodup_texts (names : Names) : names.texts.Nodup := by
  refine names.nodup_all.map_on ?_
  intro x first y second same
  have sameCid : x.cid = y.cid := (mem_all.mp first).trans (mem_all.mp second).symm
  have longer (cid : String) : cid ≠ "class_" ++ cid := by
    intro grown
    have lengths := congrArg String.length grown
    simp at lengths
  rcases Local.text_eq_iff.mp same with alike | ⟨-, -, grown⟩ | ⟨-, -, grown⟩
  · exact alike
  · exact absurd (sameCid ▸ grown) (longer _)
  · exact absurd (sameCid ▸ grown) (longer _)

theorem not_own_of_mem_texts {names : Names} {name : String} (member : name ∈ names.texts) :
    name ∉ Program.ownNames := by
  obtain ⟨x, -, rfl⟩ := List.mem_map.mp member
  exact fun own => x.toList_text_not_word (Program.ownNames_words _ own)

/-- The sixteen names of a cid differ from each other and from those around the stages, and the
names of two cids meet exactly where one cid is the other after `class_`, in a single name. -/
theorem texts_meet_exactly :
    (∀ cid, (Names.mk cid).texts.length = 16 ∧ (Names.mk cid).texts.Nodup ∧
        ∀ name ∈ (Names.mk cid).texts, name ∉ Program.ownNames) ∧
      ∀ a b, a ≠ b →
        ((∃ name, name ∈ (Names.mk a).texts ∧ name ∈ (Names.mk b).texts) ↔
            a = "class_" ++ b ∨ b = "class_" ++ a) ∧
          ∀ name, name ∈ (Names.mk a).texts ∧ name ∈ (Names.mk b).texts ↔
            a = "class_" ++ b ∧ name = "driver_class_" ++ b ∨
              b = "class_" ++ a ∧ name = "driver_class_" ++ a := by
  refine ⟨fun cid => ⟨rfl, nodup_texts _, fun _ => not_own_of_mem_texts⟩, fun a b different => ?_⟩
  have both (name : String) := @mem_texts_both a b name different
  refine ⟨⟨?_, ?_⟩, both⟩
  · rintro ⟨name, shared⟩
    exact ((both name).mp shared).imp And.left And.left
  · rintro (longer | longer)
    · exact ⟨_, (both _).mpr (.inl ⟨longer, rfl⟩)⟩
    · exact ⟨_, (both _).mpr (.inr ⟨longer, rfl⟩)⟩

/-- The cids `class_c` and `c` share `driver_class_c`; `conn` and `class_conn_c` share nothing. -/
theorem texts_of_class_c_and_c_meet :
    ("driver_class_c" ∈ (Names.mk "class_c").texts ∧ "driver_class_c" ∈ (Names.mk "c").texts) ∧
      ¬∃ name, name ∈ (Names.mk "conn").texts ∧ name ∈ (Names.mk "class_conn_c").texts := by
  have meet := texts_meet_exactly.2 "class_c" "c" (by decide)
  have apart := texts_meet_exactly.2 "conn" "class_conn_c" (by decide)
  refine ⟨(meet.2 "driver_class_c").mpr (.inl ⟨rfl, rfl⟩), fun shared => ?_⟩
  exact absurd (apart.1.mp shared) (by decide)

end Names

end Stagewright.Code
