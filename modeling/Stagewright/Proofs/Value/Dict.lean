import Mathlib.Data.List.Induction
import Stagewright.Value.Basic

/-!
What is found in a dictionary after keys have been put into it.
-/

namespace Stagewright.Dict

section Equality

variable {κ α : Type} [BEq κ]

theorem mem_of_get? {d : Dict κ α} {key : κ} {value : α} (found : d.get? key = some value) :
    ∃ entry ∈ d, entry.2 = value := by
  obtain ⟨entry, first, rfl⟩ := Option.map_eq_some_iff.mp found
  exact ⟨entry, List.mem_of_find?_eq_some first, rfl⟩

/-- What is put into a dictionary is the value, or an entry that is there whatever is put. -/
theorem mem_put {d : Dict κ α} {key : κ} {value : α} {entry : κ × α}
    (held : entry ∈ d.put key value) :
    entry.2 = value ∨ ∀ other, entry ∈ d.put key other := by
  induction d with
  | nil =>
    obtain rfl := List.mem_singleton.mp held
    exact .inl rfl
  | cons first rest ih =>
    by_cases here : first.1 == key
    · have put_eq (other : α) : put (first :: rest) key other = (first.1, other) :: rest := by
        simp [put, here]
      rw [put_eq] at held
      obtain rfl | later := List.mem_cons.mp held
      · exact .inl rfl
      · exact .inr fun other => put_eq other ▸ List.mem_cons_of_mem _ later
    · have put_eq (other : α) : put (first :: rest) key other = first :: put rest key other := by
        simp [put, here]
      rw [put_eq] at held
      obtain rfl | later := List.mem_cons.mp held
      · exact .inr fun other => put_eq other ▸ List.mem_cons_self
      · exact (ih later).imp_right fun always other =>
          put_eq other ▸ List.mem_cons_of_mem _ (always other)

theorem get?_cons_beq (entry : κ × α) (rest : Dict κ α) (key : κ) :
    get? (entry :: rest) key = if entry.1 == key then some entry.2 else get? rest key := by
  cases here : entry.1 == key <;> simp [get?, here]

theorem contains_eq_isSome (d : Dict κ α) (key : κ) : d.contains key = (d.get? key).isSome := by
  rw [get?, Option.isSome_map, Bool.eq_iff_iff, List.find?_isSome, contains, List.any_eq_true]

/-- No key stands in it twice. -/
def Distinct (d : Dict κ α) : Prop := d.Pairwise fun a b => (a.1 == b.1) = false

instance (d : Dict κ α) : Decidable d.Distinct :=
  inferInstanceAs (Decidable (d.Pairwise fun a b => (a.1 == b.1) = false))

theorem get?_of_absent {d : Dict κ α} {key : κ} (absent : ∀ entry ∈ d, (entry.1 == key) = false) :
    d.get? key = none := by
  have unfound : d.find? (·.1 == key) = none := List.find?_eq_none.mpr (by simpa using absent)
  simp [get?, unfound]

variable [EquivBEq κ]

theorem get?_put_beq (d : Dict κ α) (key other : κ) (value : α) :
    (d.put key value).get? other = if key == other then some value else d.get? other := by
  induction d with
  | nil => rw [put, get?_cons_beq]
  | cons entry rest ih =>
    by_cases here : entry.1 == key
    · have put_eq : put (entry :: rest) key value = (entry.1, value) :: rest := by
        simp [put, here]
      have alike : (entry.1 == other) = (key == other) := BEq.congr_left here
      rw [put_eq, get?_cons_beq, get?_cons_beq, alike]
      split <;> rfl
    · have put_eq : put (entry :: rest) key value = entry :: put rest key value := by
        simp [put, here]
      rw [put_eq, get?_cons_beq, get?_cons_beq, ih]
      cases atOther : entry.1 == other with
      | false => rfl
      | true =>
        have apart : ¬(key == other) = true := fun same => here (BEq.trans atOther (BEq.symm same))
        simp [apart]

theorem get?_put_of_ne (d : Dict κ α) {key other : κ} (value : α)
    (different : (key == other) = false) : (d.put key value).get? other = d.get? other := by
  simp [get?_put_beq, different]

/-- A dictionary that is updated keeps what the other one says nothing about. -/
theorem get?_update {more : Dict κ α} (distinct : more.Distinct) (d : Dict κ α) (key : κ) :
    (d.update more).get? key = (more.get? key).or (d.get? key) := by
  induction more generalizing d with
  | nil => rfl
  | cons entry rest ih =>
    obtain ⟨first, others⟩ := List.pairwise_cons.mp distinct
    have step : d.update (entry :: rest) = (d.put entry.1 entry.2).update rest := rfl
    rw [step, ih others, get?_put_beq, get?_cons_beq]
    cases here : entry.1 == key with
    | true =>
      -- what is put under the key first is not put there again
      have later : get? rest key = none :=
        get?_of_absent fun other among => by
          rw [← BEq.congr_right here, BEq.comm]
          exact first other among
      simp [later]
    | false => simp

/-- Dictionaries that agree on a key still do after the same update. -/
theorem get?_update_congr {d d' : Dict κ α} {key : κ} (same : d.get? key = d'.get? key)
    (more : Dict κ α) : (d.update more).get? key = (d'.update more).get? key := by
  induction more generalizing d d' with
  | nil => exact same
  | cons entry rest ih =>
    refine ih ?_
    rw [get?_put_beq, get?_put_beq, same]

/-- What an update holds a key for does not depend on what is updated. -/
theorem get?_update_of_some {more : Dict κ α} {key : κ} {value : α}
    (held : more.get? key = some value) (d d' : Dict κ α) :
    (d.update more).get? key = (d'.update more).get? key := by
  induction more generalizing d d' with
  | nil => exact absurd held (by simp [get?])
  | cons entry rest ih =>
    rw [get?_cons_beq] at held
    cases here : entry.1 == key with
    | true =>
      refine get?_update_congr ?_ rest
      rw [get?_put_beq, get?_put_beq, here]
      rfl
    | false =>
      rw [here] at held
      exact ih held _ _

end Equality

variable {κ α : Type} [DecidableEq κ]

theorem get?_cons (entry : κ × α) (rest : Dict κ α) (key : κ) :
    get? (entry :: rest) key = if entry.1 = key then some entry.2 else get? rest key := by
  simp only [get?_cons_beq, beq_iff_eq]

theorem get?_put (d : Dict κ α) (key other : κ) (value : α) :
    (d.put key value).get? other = if other = key then some value else d.get? other := by
  simp only [get?_put_beq, beq_iff_eq, eq_comm (a := key)]

theorem keys_put (d : Dict κ α) (key : κ) (value : α) :
    (d.put key value).keys = if key ∈ d.keys then d.keys else d.keys ++ [key] := by
  induction d with
  | nil => simp [put, keys]
  | cons entry rest ih =>
    by_cases here : entry.1 = key
    · simp [put, keys, here]
    · have there : key ∈ keys (entry :: rest) ↔ key ∈ keys rest := by
        simp [keys, Ne.symm here]
      have put_eq : put (entry :: rest) key value = entry :: put rest key value := by
        simp [put, here]
      simp only [put_eq, there]
      change entry.1 :: keys (put rest key value) = _
      rw [ih]
      split <;> rfl

theorem update_append (d first second : Dict κ α) :
    d.update (first ++ second) = (d.update first).update second :=
  List.foldl_append

/-- A new dictionary holds what was put into it last under each key. -/
theorem get?_update_nil (entries : Dict κ α) (key : κ) :
    (update [] entries).get? key = get? entries.reverse key := by
  induction entries using List.reverseRecOn with
  | nil => rfl
  | append_singleton entries entry ih =>
    have last : update [] (entries ++ [entry]) = (update [] entries).put entry.1 entry.2 :=
      update_append [] entries [entry]
    rw [last, get?_put, ih, List.reverse_append, List.reverse_singleton, List.singleton_append,
      get?_cons]
    simp only [eq_comm]

/-- What a new dictionary holds under a key is put there by the last entry with that key. -/
theorem get?_update_nil_eq_some_iff {entries : Dict κ α} {key : κ} {value : α} :
    (update [] entries).get? key = some value ↔
      ∃ before after, entries = before ++ (key, value) :: after ∧
        ∀ later ∈ after, later.1 ≠ key := by
  rw [get?_update_nil, get?, Option.map_eq_some_iff]
  constructor
  · rintro ⟨⟨last, _⟩, found, rfl⟩
    obtain ⟨here, after, before, split, others⟩ := List.find?_eq_some_iff_append.mp found
    obtain rfl : last = key := by simpa using here
    refine ⟨before.reverse, after.reverse, ?_, fun later member => ?_⟩
    · simpa using List.reverse_eq_append_iff.mp split
    · simpa using others later (List.mem_reverse.mp member)
  · rintro ⟨before, after, rfl, others⟩
    refine ⟨(key, value), List.find?_eq_some_iff_append.mpr ⟨by simp, after.reverse,
      before.reverse, by simp, fun later member => ?_⟩, rfl⟩
    simpa using others later (List.mem_reverse.mp member)

/-- The keys of a new dictionary stand in the order in which they were put into it first. -/
theorem keys_update_nil (entries : Dict κ α) :
    (update [] entries).keys = (keys entries).eraseDups := by
  induction entries using List.reverseRecOn with
  | nil => rfl
  | append_singleton entries entry ih =>
    have last : update [] (entries ++ [entry]) = (update [] entries).put entry.1 entry.2 :=
      update_append [] entries [entry]
    have split : keys (entries ++ [entry]) = keys entries ++ [entry.1] := by simp [keys]
    rw [last, keys_put, ih, split, List.eraseDups_append]
    by_cases known : entry.1 ∈ keys entries
    · simp [known, List.removeAll]
    · simp [known, List.removeAll, List.eraseDups_cons]

end Stagewright.Dict

namespace Stagewright

/-- Keys are equal if they are known by the same. -/
instance : EquivBEq Scalar where
  rfl := by simp [BEq.beq]
  symm := by simp [BEq.beq, eq_comm]
  trans := by simp +contextual [BEq.beq]

/-- A parameter that has been set is the only one that has changed. -/
theorem Mapping.get?_put_of_ne (m : Mapping) {key other : String} (value : Value)
    (different : other ≠ key) : Mapping.get? (m.put (.text key) value) other = m.get? other :=
  Dict.get?_put_of_ne m value (by simp [BEq.beq, Scalar.identity, different.symm])

/-- Values under the keys that are left when one is erased. -/
theorem Mapping.get?_erase (m : Mapping) {key other : String} (different : other ≠ key) :
    Mapping.get? (m.erase (.text key)) other = m.get? other := by
  rw [Mapping.get?, Mapping.get?, Dict.get?, Dict.get?, Dict.erase, List.find?_filter]
  refine congrArg (Option.map Prod.snd) (congrArg (List.find? · m) (funext fun e => ?_))
  cases here : e.1 == Scalar.text other with
  | false => simp
  | true =>
    have apart : (e.1 == Scalar.text key) = false := by
      rw [BEq.congr_left here]
      simpa [BEq.beq, Scalar.identity] using different
    simp [apart]

theorem Mapping.get?_erase_self (m : Mapping) (key : String) :
    Mapping.get? (m.erase (.text key)) key = none :=
  Dict.get?_of_absent fun e held => by simpa using (List.mem_filter.mp held).2

end Stagewright
