import Mathlib.Data.List.Basic
import Stagewright.Code.Local
import Stagewright.Proofs.Job.Accepted

/-!
When two variables of the generated program are written alike. Stages of one job go by different
cids, and still the driver of one stage can be written like the driver class of another.
-/

namespace Stagewright.Code

/-- What stands in front of the cid. -/
def Slot.lead (slot : Slot) : List Char := slot.stem.toList ++ ['_']

theorem Slot.mem_all (slot : Slot) : slot ∈ Slot.all := by
  cases slot <;> decide

/-- Of all leads only that of a driver begins another one. -/
theorem Slot.lead_isPrefixOf : ∀ s ∈ Slot.all, ∀ t ∈ Slot.all, s.lead.isPrefixOf t.lead = true →
    s = t ∨ s = .driver ∧ t = .driverClass := by
  decide +kernel

theorem Slot.lead_prefix {s t : Slot} (begins : s.lead <+: t.lead) :
    s = t ∨ s = .driver ∧ t = .driverClass :=
  Slot.lead_isPrefixOf s s.mem_all t t.mem_all (List.isPrefixOf_iff_prefix.mpr begins)

namespace Local

theorem toList_text (x : Local) : x.text.toList = x.slot.lead ++ x.cid.toList := by
  simp [text, Slot.lead]

/-- The driver of a stage whose cid continues that of a driver class. -/
def Clashes (x y : Local) : Prop :=
  x.slot = .driver ∧ y.slot = .driverClass ∧ x.cid = "class_" ++ y.cid

theorem Clashes.text_eq {x y : Local} (clash : x.Clashes y) : x.text = y.text := by
  obtain ⟨driver, driverClass, cid⟩ := clash
  refine String.toList_inj.mp ?_
  simp [toList_text, Slot.lead, driver, driverClass, cid, Slot.stem]

theorem Clashes.text {x y : Local} (clash : x.Clashes y) : x.text = "driver_class_" ++ y.cid := by
  obtain ⟨driver, -, cid⟩ := clash
  refine String.toList_inj.mp ?_
  simp [toList_text, Slot.lead, driver, cid, Slot.stem]

theorem eq_or_clashes {x y : Local} (same : x.text = y.text)
    (begins : x.slot.lead <+: y.slot.lead) : x = y ∨ x.Clashes y := by
  have chars := congrArg String.toList same
  rw [toList_text, toList_text] at chars
  obtain ⟨slot, cid⟩ := x
  obtain ⟨slot', cid'⟩ := y
  rcases Slot.lead_prefix begins with alike | ⟨driver, driverClass⟩
  · dsimp only at alike
    subst alike
    exact .inl (congrArg _ (String.toList_inj.mp (List.append_cancel_left chars)))
  · dsimp only at driver driverClass
    subst driver driverClass
    refine .inr ⟨rfl, rfl, String.toList_inj.mp ?_⟩
    simpa [Slot.lead, Slot.stem] using chars

/-- Variables are written alike only if they are the same or clash. -/
theorem text_eq_iff {x y : Local} : x.text = y.text ↔ x = y ∨ x.Clashes y ∨ y.Clashes x := by
  constructor
  · intro same
    have first : x.slot.lead <+: x.text.toList := ⟨_, x.toList_text.symm⟩
    have second : y.slot.lead <+: x.text.toList := ⟨_, same ▸ y.toList_text.symm⟩
    -- Both leads begin the same text, so the shorter of them begins the longer one.
    rcases List.prefix_or_prefix_of_prefix first second with shorter | longer
    · exact (eq_or_clashes same shorter).imp_right .inl
    · exact (eq_or_clashes same.symm longer).imp Eq.symm .inr
  · rintro (rfl | clash | clash)
    · rfl
    · exact clash.text_eq
    · exact clash.text_eq.symm

end Local

namespace Names

/-- The variables as they are written. -/
def texts (names : Names) : List String := names.all.map Local.text

theorem mem_all {cid : String} {x : Local} : x ∈ (Names.mk cid).all ↔ x.cid = cid := by
  constructor
  · intro member
    obtain ⟨slot, -, rfl⟩ := List.mem_map.mp member
    rfl
  · rintro rfl
    exact List.mem_map.mpr ⟨x.slot, x.slot.mem_all, rfl⟩

/-- Two different cids share the name of a variable only if one of them is the other after
`class_`, and then only one name. -/
theorem mem_texts_both {a b name : String} (different : a ≠ b) :
    name ∈ (Names.mk a).texts ∧ name ∈ (Names.mk b).texts ↔
      a = "class_" ++ b ∧ name = "driver_class_" ++ b ∨
        b = "class_" ++ a ∧ name = "driver_class_" ++ a := by
  constructor
  · rintro ⟨ofFirst, ofSecond⟩
    obtain ⟨x, first, rfl⟩ := List.mem_map.mp ofFirst
    obtain ⟨y, second, same⟩ := List.mem_map.mp ofSecond
    obtain rfl := mem_all.mp first
    obtain rfl := mem_all.mp second
    rcases Local.text_eq_iff.mp same with rfl | clash | clash
    · exact absurd rfl different
    · exact .inr ⟨clash.2.2, same.symm.trans clash.text⟩
    · exact .inl ⟨clash.2.2, clash.text⟩
  · have shared (cid : String) : "driver_class_" ++ cid ∈ (Names.mk ("class_" ++ cid)).texts ∧
        "driver_class_" ++ cid ∈ (Names.mk cid).texts := by
      have clash : (Names.driver ⟨"class_" ++ cid⟩).Clashes (Names.driverClass ⟨cid⟩) :=
        ⟨rfl, rfl, rfl⟩
      refine ⟨List.mem_map.mpr ⟨_, mem_all.mpr rfl, clash.text⟩,
        List.mem_map.mpr ⟨Names.driverClass ⟨cid⟩, mem_all.mpr rfl, ?_⟩⟩
      exact clash.text_eq.symm.trans clash.text
    rintro (⟨rfl, rfl⟩ | ⟨rfl, rfl⟩)
    · exact shared b
    · exact (shared a).symm

theorem texts_disjoint_iff {a b : String} (different : a ≠ b) :
    (Names.mk a).texts.Disjoint (Names.mk b).texts ↔ a ≠ "class_" ++ b ∧ b ≠ "class_" ++ a := by
  constructor
  · intro disjoint
    constructor
    · intro same
      obtain ⟨ofFirst, ofSecond⟩ := (mem_texts_both different).mpr (.inl ⟨same, rfl⟩)
      exact disjoint ofFirst ofSecond
    · intro same
      obtain ⟨ofFirst, ofSecond⟩ := (mem_texts_both different).mpr (.inr ⟨same, rfl⟩)
      exact disjoint ofFirst ofSecond
  · rintro ⟨notFirst, notSecond⟩ name ofFirst ofSecond
    rcases (mem_texts_both different).mp ⟨ofFirst, ofSecond⟩ with ⟨same, -⟩ | ⟨same, -⟩
    · exact notFirst same
    · exact notSecond same

end Names

end Stagewright.Code

namespace Stagewright.Job

open Code

/-- No two stages of a job that has been read share a variable, unless the cid of one is that of
the other after `class_`. -/
theorem variables_apart_iff {document overrides environment : Mapping} {source : Option String}
    {job : Job} (read : (Job.read document overrides environment source).1 = .ok job) {i j : Nat}
    {a b : Stage} (first : job.stages[i]? = some a) (second : job.stages[j]? = some b)
    (apart : i ≠ j) :
    ((Names.mk a.cid).texts.Disjoint (Names.mk b.cid).texts ↔
        a.cid ≠ "class_" ++ b.cid ∧ b.cid ≠ "class_" ++ a.cid) ∧
      ∀ name ∈ (Names.mk a.cid).texts, name ∈ (Names.mk b.cid).texts →
        a.cid = "class_" ++ b.cid ∧ name = "driver_class_" ++ b.cid ∨
          b.cid = "class_" ++ a.cid ∧ name = "driver_class_" ++ a.cid := by
  have different := (read_accepted read).cid_ne first second apart
  exact ⟨Names.texts_disjoint_iff different,
    fun name ofFirst ofSecond => (Names.mem_texts_both different).mp ⟨ofFirst, ofSecond⟩⟩

/-- A document with stages of the given cids, which get connections. -/
def documentOfTwo (a b : String) : Mapping :=
  [(.text "job", .text "j"),
    (.text "stages", .list [.map [(.text "cid", .text a)], .map [(.text "cid", .text b)]])]

/-- The stage of a document that gives nothing but its cid. -/
def stageOf (cid : String) : Stage := { cid, params := StageKind.connection.defaults }

def jobOfTwo (a b : String) : Job := { name := "j", stages := [stageOf a, stageOf b] }

/-- The stages `c` and `d` share no variable. -/
theorem variables_of_c_and_d_apart :
    (Job.read (documentOfTwo "c" "d") [] [] none).1 = .ok (jobOfTwo "c" "d") ∧
      (Names.mk "c").texts.Disjoint (Names.mk "d").texts := by
  have read : (Job.read (documentOfTwo "c" "d") [] [] none).1 = .ok (jobOfTwo "c" "d") := rfl
  have place : (jobOfTwo "c" "d").stages[0]? = some (stageOf "c") := rfl
  have place' : (jobOfTwo "c" "d").stages[1]? = some (stageOf "d") := rfl
  exact ⟨read, (variables_apart_iff read place place' (by decide)).1.mpr (by decide)⟩

/-- The driver of stage `class_c` is written like the driver class of stage `c`. -/
theorem driver_of_class_c_collides :
    (Job.read (documentOfTwo "class_c" "c") [] [] none).1 = .ok (jobOfTwo "class_c" "c") ∧
      ¬(Names.mk "class_c").texts.Disjoint (Names.mk "c").texts := by
  refine ⟨rfl, fun disjoint => ?_⟩
  exact @disjoint "driver_class_c" (by decide) (by decide)

end Stagewright.Job
