/-!
Gaps in a message. A percent sign begins a gap, in which flags, a width, a precision and a size may
stand before the letter that tells what is filled in. Each letter takes an argument, and so does a
width or a precision that is left open; two percent signs stand for one and take none.
-/

namespace Stagewright.Text

/-- How far a gap has been read. -/
inductive Gap where
  /-- Outside of gaps. -/
  | outside
  | flags
  | width
  /-- Past a width that is left open. -/
  | widened
  | point
  | precision
  /-- Past a precision that is left open. -/
  | cut
  | sized
deriving DecidableEq, Repr

/-- The letters that end a gap. -/
def conversions : List Char := "diouxXeEfFgGcrsa".toList

namespace Gap

/-- What comes of a character inside a gap, and how many arguments it takes. -/
def inside (gap : Gap) (c : Char) : Option (Nat × Gap) :=
  if c = '%' then some (0, .outside)
  else if c ∈ conversions then some (1, .outside)
  else if c ∈ ['h', 'l', 'L'] then if gap = .sized then none else some (0, .sized)
  else if c = '.' then if gap ∈ [.flags, .width, .widened] then some (0, .point) else none
  else if c = '*' then
    match gap with
    | .flags => some (1, .widened)
    | .point => some (1, .cut)
    | _ => none
  else if gap = .flags ∧ c ∈ ['#', '0', '-', '+', ' '] then some (0, .flags)
  else if c.isDigit then
    match gap with
    | .flags | .width => some (0, .width)
    | .point | .precision => some (0, .precision)
    | _ => none
  else none

def step (gap : Gap) (c : Char) : Option (Nat × Gap) :=
  if gap = .outside then some (0, if c = '%' then .flags else .outside) else gap.inside c

/-- Reads on through text. -/
def read (gap : Gap) : List Char → Option (Nat × Gap)
  | [] => some (0, gap)
  | c :: rest =>
    (gap.step c).bind fun first => (first.2.read rest).map (Prod.map (first.1 + ·) id)

theorem read_append {gap mid : Gap} {front : List Char} {taken : Nat}
    (first : gap.read front = some (taken, mid)) (back : List Char) :
    gap.read (front ++ back) = (mid.read back).map (Prod.map (taken + ·) id) := by
  induction front generalizing gap taken with
  | nil =>
    obtain ⟨rfl, rfl⟩ := Prod.mk.inj (Option.some.inj first)
    have same : (Prod.map (0 + ·) id : Nat × Gap → Nat × Gap) = id := by
      funext ⟨count, gap⟩
      simp
    simp only [List.nil_append, same, Option.map_id, id_eq]
  | cons c rest ih =>
    obtain ⟨⟨early, next⟩, stepped, later⟩ := Option.bind_eq_some_iff.mp first
    obtain ⟨⟨more, last⟩, onward, sum⟩ := Option.map_eq_some_iff.mp later
    obtain ⟨rfl, rfl⟩ := Prod.mk.inj sum
    rw [List.cons_append, read, stepped, Option.bind_some, ih onward, Option.map_map]
    have total : Prod.map (early + ·) id ∘ Prod.map (more + ·) id =
        (Prod.map (early + more + ·) id : Nat × Gap → Nat × Gap) := by
      funext ⟨count, gap⟩
      simp only [Function.comp_apply, Prod.map_apply, id_eq, Nat.add_assoc]
    exact congrArg (Option.map · (last.read back)) total

/-- What cannot be read does not become so by what follows. -/
theorem read_append_none {gap : Gap} {front : List Char} (unread : gap.read front = none)
    (back : List Char) : gap.read (front ++ back) = none := by
  induction front generalizing gap with
  | nil => exact absurd unread (by simp [read])
  | cons c rest ih =>
    rw [List.cons_append, read]
    rw [read] at unread
    cases stepped : gap.step c with
    | none => rfl
    | some first =>
      simp only [stepped, Option.bind_some, Option.map_eq_none_iff] at unread
      simp [ih unread]

theorem read_plain {text : List Char} (plain : '%' ∉ text) :
    outside.read text = some (0, outside) := by
  induction text with
  | nil => rfl
  | cons c rest ih =>
    have first : c ≠ '%' := fun same => plain (same ▸ List.mem_cons_self)
    have later := ih fun member => plain (List.mem_cons_of_mem _ member)
    simp [read, step, first, later]

/-- A quotation mark is no part of a gap. -/
theorem step_quote {gap : Gap} (within : gap ≠ .outside) : gap.step '\'' = none := by
  rw [step, if_neg within]
  cases gap <;> decide

/-- Behind a quotation mark every gap has come to its end. -/
theorem read_quote {text : List Char} {taken : Nat} {gap : Gap}
    (quoted : outside.read (text ++ ['\'']) = some (taken, gap)) : gap = .outside := by
  cases first : outside.read text with
  | none =>
    rw [read_append_none first] at quoted
    exact absurd quoted (by simp)
  | some found =>
    obtain ⟨early, mid⟩ := found
    rw [read_append first] at quoted
    obtain ⟨⟨more, last⟩, onward, sum⟩ := Option.map_eq_some_iff.mp quoted
    obtain ⟨-, rfl⟩ := Prod.mk.inj sum
    by_cases out : mid = .outside
    · rw [out, read_plain (by decide)] at onward
      exact (Prod.mk.inj (Option.some.inj onward)).2.symm
    · rw [read, step_quote out] at onward
      exact absurd onward (by simp)

end Gap

/-- How many arguments the gaps of a message ask for, if the message can be read. -/
def asks? (message : String) : Option Nat :=
  match Gap.outside.read message.toList with
  | some (taken, .outside) => some taken
  | _ => none

theorem asks?_eq_some {message : String} {count : Nat} :
    asks? message = some count ↔ Gap.outside.read message.toList = some (count, .outside) := by
  unfold asks?
  split
  · rename_i taken read
    simp [read]
  · rename_i unread
    simp only [reduceCtorEq, false_iff]
    exact unread count

theorem asks?_plain {message : String} (plain : '%' ∉ message.toList) :
    asks? message = some 0 := asks?_eq_some.mpr (Gap.read_plain plain)

/-- Text that can be read by itself asks for its arguments before those of what follows. -/
theorem asks?_append {front : String} {count : Nat} (asks : asks? front = some count)
    (back : String) : asks? (front ++ back) = (asks? back).map (count + ·) := by
  have first := asks?_eq_some.mp asks
  rw [asks?, String.toList_append, Gap.read_append first, asks?]
  cases Gap.outside.read back.toList with
  | none => rfl
  | some found =>
    obtain ⟨more, last⟩ := found
    cases last <;> rfl

/-- Quoted text asks for its own arguments, and a message that it spoils is not mended by what
follows. -/
theorem asks?_quoted (text back : String) :
    asks? ("'" ++ text ++ "'" ++ back) =
      (asks? ("'" ++ text ++ "'")).bind fun count => (asks? back).map (count + ·) := by
  cases asks : asks? ("'" ++ text ++ "'") with
  | some count => exact asks?_append asks back
  | none =>
    have quoted : ("'" ++ text ++ "'").toList = ('\'' :: text.toList) ++ ['\''] := by simp
    cases read : Gap.outside.read ("'" ++ text ++ "'").toList with
    | none =>
      rw [asks?, String.toList_append, Gap.read_append_none read]
      rfl
    | some found =>
      obtain ⟨taken, gap⟩ := found
      rw [quoted] at read
      obtain rfl := Gap.read_quote read
      rw [asks?_eq_some.mpr (quoted ▸ read)] at asks
      exact absurd asks (by simp)

-- A width that is left open takes an argument of its own, a doubled sign none.
example : asks? "%d of %5.1f, %*s: 100%%" = some 4 := by decide

-- A sign at the end, and one before a letter that fills no gap.
example : asks? "100%" = none ∧ asks? "%y" = none := by decide

end Stagewright.Text
