import Stagewright.Code.Program
import Stagewright.Proofs.Text.Lines

/-!
The module of a program line by line.
-/

namespace Stagewright

namespace Text

theorem unlines_append {front back : List String} (some : front ≠ []) (more : back ≠ []) :
    unlines (front ++ back) = unlines front ++ "\n" ++ unlines back :=
  String.intercalate_append_of_ne_nil some more

theorem unlines_around {front back : List String} {line : String} (some : front ≠ [])
    (more : back ≠ []) :
    unlines (front ++ line :: back) = unlines front ++ "\n" ++ line ++ "\n" ++ unlines back := by
  have rest : unlines (line :: back) = line ++ "\n" ++ unlines back :=
    String.intercalate_cons_of_ne_nil more
  rw [unlines_append some (List.cons_ne_nil _ _), rest]
  simp only [String.append_assoc]

theorem mem_intercalate {α : Type} {separator piece : List α} {pieces : List (List α)} {a : α}
    (held : piece ∈ pieces) (member : a ∈ piece) : a ∈ separator.intercalate pieces := by
  induction pieces with
  | nil => exact absurd held List.not_mem_nil
  | cons first rest ih =>
    cases rest with
    | nil =>
      rw [List.mem_singleton.mp held] at member
      simpa using member
    | cons next rest =>
      rw [List.intercalate_cons_cons, List.mem_append, List.mem_append]
      rcases List.mem_cons.mp held with rfl | later
      · exact .inl (.inl member)
      · exact .inr (ih later)

/-- Groups of lines with an empty line between one and the next. -/
theorem unlines_groups {groups : List (List String)} (some : ∀ group ∈ groups, group ≠ []) :
    "\n\n".intercalate (groups.map unlines) = unlines ([""].intercalate groups) := by
  induction groups with
  | nil => rfl
  | cons group rest ih =>
    have first := some group List.mem_cons_self
    have later : ∀ other ∈ rest, other ≠ [] :=
      fun other member => some other (List.mem_cons_of_mem _ member)
    cases rest with
    | nil => simp
    | cons next rest =>
      have nonempty : [""].intercalate (next :: rest) ≠ [] := by
        obtain ⟨line, lines, split⟩ := List.exists_cons_of_ne_nil (later next List.mem_cons_self)
        simp [split]
      have gap : unlines ("" :: [""].intercalate (next :: rest)) =
          "\n" ++ unlines ([""].intercalate (next :: rest)) := by
        have whole := unlines_append (List.cons_ne_nil "" []) nonempty
        simpa [unlines] using whole
      have split := unlines_append first (List.cons_ne_nil "" ([""].intercalate (next :: rest)))
      rw [List.intercalate_cons_cons, List.append_assoc, List.singleton_append, split, gap,
        List.map_cons, List.map_cons, String.intercalate_cons_cons, ← List.map_cons, ih later]
      simp only [String.append_assoc]
      rfl

end Text

namespace Code

open Text

theorem oneLine_indent (depth : Nat) : OneLine (indent depth) := by
  intro member
  rw [indent, String.toList_ofList] at member
  exact absurd (List.eq_of_mem_replicate member) (by decide)

theorem indented_eq {text : String} (some : text ≠ "") (depth : Nat) :
    indented depth text = indent depth ++ text :=
  if_neg fun empty => some (String.isEmpty_iff.mp empty)

theorem oneLine_indented {text : String} (depth : Nat) (one : OneLine text) :
    OneLine (indented depth text) := by
  unfold indented
  split
  · decide
  · exact oneLine_append.mpr ⟨oneLine_indent depth, one⟩

/-- The comment in front of a fragment. -/
def Fragment.header (fragment : Fragment) : String :=
  "# " ++ fragment.cid ++ " (" ++ fragment.component ++ ")"

/-- The lines of a fragment at a depth. -/
def Fragment.lines (depth : Nat) (fragment : Fragment) : List String :=
  (indent depth ++ fragment.header) :: fragment.code.texts.map (indented depth)

theorem Fragment.text_eq (depth : Nat) (fragment : Fragment) :
    fragment.text depth = unlines (fragment.lines depth) := by
  have header : indent depth ++ "# " ++ fragment.cid ++ " (" ++ fragment.component ++ ")" =
      indent depth ++ fragment.header := by
    simp only [Fragment.header, String.append_assoc]
  rw [Fragment.text, header]
  rfl

namespace Program

variable (program : Program)

/-- The groups of lines in the body of the program's one function. -/
def groups : List (List String) :=
  if program.isEmpty then [[indent 1 ++ "pass"]] else program.map (Fragment.lines 1)

theorem groups_ne_nil : program.groups ≠ [] := by
  cases program <;> simp [groups]

theorem ne_nil_of_mem_groups : ∀ group ∈ program.groups, group ≠ [] := by
  unfold groups
  split
  · simp
  · simp [Fragment.lines]

theorem body_eq : program.body = unlines ([""].intercalate program.groups) := by
  have each : Fragment.text 1 = unlines ∘ Fragment.lines 1 := funext (Fragment.text_eq 1)
  rw [← unlines_groups program.ne_nil_of_mem_groups, body, groups]
  split
  · simp [unlines]
  · rw [Program.text, each, List.map_map]

/-- The module begins with the lines of the preamble and ends with an empty line. -/
theorem module_eq (name : String) :
    program.module name =
      unlines (preamble name ++ [""].intercalate program.groups ++ [""]) := by
  have body : [""].intercalate program.groups ≠ [] := by
    obtain ⟨group, rest, split⟩ := List.exists_cons_of_ne_nil program.groups_ne_nil
    obtain ⟨line, lines, first⟩ := List.exists_cons_of_ne_nil
      (program.ne_nil_of_mem_groups group (split ▸ List.mem_cons_self))
    simp [split, first]
  have last : unlines ([""].intercalate program.groups ++ [""]) =
      unlines [program.body, ""] := by
    rw [unlines_append body (List.cons_ne_nil "" []), ← body_eq]
    simp [unlines]
  have front : preamble name ≠ [] := List.cons_ne_nil _ _
  rw [List.append_assoc, unlines_append front (by simp), last, module]
  exact String.intercalate_append_of_ne_nil front (List.cons_ne_nil _ _)

/-- Every line of a fragment stands on a line of its own in the module. -/
theorem line_stands {fragment : Fragment} {line : String} (held : fragment ∈ program)
    (member : line ∈ fragment.lines 1) (name : String) :
    ∃ before after, program.module name = before ++ "\n" ++ line ++ "\n" ++ after := by
  have nonempty : ¬program.isEmpty = true := by
    intro empty
    rw [List.isEmpty_iff.mp empty] at held
    exact absurd held List.not_mem_nil
  have inside : line ∈ [""].intercalate program.groups := by
    rw [groups, if_neg nonempty]
    exact mem_intercalate (List.mem_map_of_mem held) member
  obtain ⟨front, back, split⟩ := List.append_of_mem inside
  have before : preamble name ++ front ≠ [] := List.cons_ne_nil _ _
  have after : back ++ [""] ≠ [] := List.append_ne_nil_of_right_ne_nil _ (List.cons_ne_nil _ _)
  have lines : preamble name ++ [""].intercalate program.groups ++ [""] =
      (preamble name ++ front) ++ line :: (back ++ [""]) := by
    simp [split]
  exact ⟨_, _, by rw [module_eq, lines, unlines_around before after]⟩

end Program

end Code

end Stagewright
