import Stagewright.Value.Excess

/-!
What is too much in a value: a whole number of too many digits that stands somewhere in it, or too
many collections inside one another. Writing a value out comes to one of these, if there is any.
-/

namespace Stagewright.Value

/-- At least `n` collections stand inside one another. -/
inductive Nests : Nat → Value → Prop
  | collection {v held} : v.held? = some held → Nests 1 v
  | within {n v w held} : v.held? = some held → w ∈ held → Nests n w → Nests (n + 1) v

/-- A whole number of too many digits stands somewhere in the value, be it as a key. -/
inductive HoldsLong : Value → Prop
  | scalar {s} : s.excess? ≠ none → HoldsLong (.scalar s)
  | within {v w held} : v.held? = some held → w ∈ held → HoldsLong w → HoldsLong v

/-- There is too much of something in a value, where at most `room` collections inside one another
are written out. -/
def Exceeds (room : Nat) (v : Value) : Excess → Prop
  | .digits => v.HoldsLong
  | .depth => v.Nests (room + 1)

theorem findSome?_congr {α β : Type} {f g : α → Option β} {l : List α}
    (alike : ∀ a ∈ l, f a = g a) : l.findSome? f = l.findSome? g := by
  induction l with
  | nil => rfl
  | cons a rest ih =>
    obtain ⟨here, later⟩ := List.forall_mem_cons.mp alike
    rw [List.findSome?_cons, List.findSome?_cons, here, ih later]

theorem excessIn?_scalar (room : Nat) (s : Scalar) :
    (Value.scalar s).excessIn? room = s.excess? := by
  cases room <;> rfl

theorem excessIn?_again (room : Nat) (c : Collection) : (Value.again c).excessIn? room = none := by
  cases room <;> rfl

section Collection

variable {v : Value} {held : List Value} (collection : v.held? = some held)

include collection

theorem excessIn?_zero : v.excessIn? 0 = some .depth := by
  cases v with
  | scalar => simp [held?] at collection
  | _ => simp [excessIn?, collection]

theorem excessIn?_succ (room : Nat) :
    v.excessIn? (room + 1) = held.findSome? fun w => w.excessIn? room := by
  cases v with
  | scalar => simp [held?] at collection
  | _ => simp [excessIn?, collection]

end Collection

/-- Each entry of a mapping counts with its key, and then with its value. -/
theorem excessIn?_map_succ (room : Nat) (entries : List (Scalar × Value)) :
    (Value.map entries).excessIn? (room + 1) =
      entries.findSome? fun e => e.1.excess?.or (e.2.excessIn? room) := by
  rw [excessIn?_succ rfl]
  induction entries with
  | nil => rfl
  | cons e rest ih =>
    simp only [List.flatMap_cons, List.cons_append, List.nil_append, List.findSome?_cons,
      excessIn?_scalar, ih]
    cases e.1.excess? <;> simp

/-- A value that is no collection is too large only by its digits. -/
theorem exceeds_of_scalar {room : Nat} {v : Value} {e : Excess} (single : v.held? = none)
    (found : v.excessIn? room = some e) : v.HoldsLong ∧ e = .digits := by
  cases v with
  | scalar s =>
    rw [excessIn?_scalar] at found
    refine ⟨.scalar (by simp [found]), ?_⟩
    unfold Scalar.excess? at found
    split at found
    · split at found <;> simp_all
    · simp at found
  | again => simp [excessIn?_again] at found
  | _ => simp [held?] at single

/-- What is met first is too much. -/
theorem exceeds_of_excessIn? {room : Nat} {v : Value} {e : Excess}
    (found : v.excessIn? room = some e) : v.Exceeds room e := by
  induction room generalizing v with
  | zero =>
    cases collection : v.held? with
    | none =>
      obtain ⟨long, rfl⟩ := exceeds_of_scalar collection found
      exact long
    | some held =>
      obtain rfl := Option.some.inj ((excessIn?_zero collection).symm.trans found)
      exact .collection collection
  | succ room ih =>
    cases collection : v.held? with
    | none =>
      obtain ⟨long, rfl⟩ := exceeds_of_scalar collection found
      exact long
    | some held =>
      rw [excessIn?_succ collection] at found
      obtain ⟨w, member, here⟩ := List.exists_of_findSome?_eq_some found
      cases e with
      | digits => exact HoldsLong.within collection member (ih here)
      | depth => exact Nests.within collection member (ih here)

theorem HoldsLong.excessIn?_ne_none {v : Value} (long : v.HoldsLong) (room : Nat) :
    v.excessIn? room ≠ none := by
  induction long generalizing room with
  | scalar large =>
    rw [excessIn?_scalar]
    exact large
  | within collection member _ ih =>
    cases room with
    | zero => simp [excessIn?_zero collection]
    | succ room =>
      rw [excessIn?_succ collection]
      intro nothing
      exact ih room (List.findSome?_eq_none_iff.mp nothing _ member)

theorem Nests.excessIn?_ne_none {room : Nat} {v : Value} (nests : v.Nests (room + 1)) :
    v.excessIn? room ≠ none := by
  induction room generalizing v with
  | zero => cases nests with
    | collection collection => simp [excessIn?_zero collection]
    | within collection => simp [excessIn?_zero collection]
  | succ room ih => cases nests with
    | within collection member inner =>
      rw [excessIn?_succ collection]
      intro nothing
      exact ih inner (List.findSome?_eq_none_iff.mp nothing _ member)

/-- A value can be written out exactly if nothing in it is too much. -/
theorem excessIn?_eq_none_iff {room : Nat} {v : Value} :
    v.excessIn? room = none ↔ ∀ e, ¬v.Exceeds room e := by
  constructor
  · intro nothing e exceeds
    cases e with
    | digits => exact HoldsLong.excessIn?_ne_none exceeds room nothing
    | depth => exact Nests.excessIn?_ne_none exceeds nothing
  · intro bounded
    cases found : v.excessIn? room with
    | none => rfl
    | some e => exact absurd (exceeds_of_excessIn? found) (bounded e)

end Stagewright.Value
