import Stagewright.Proofs.Code.Rendering

/-!
Reading fragments back from the module that they have been written to.
-/

namespace Stagewright.Code

open Text

/-- What is written of a fragment: its names, and its code line by line. -/
structure Section where
  cid : String
  component : String
  lines : List String
deriving DecidableEq, Repr

def Fragment.shown (fragment : Fragment) : Section :=
  ⟨fragment.cid, fragment.component, fragment.code.texts⟩

/-- A line of the function's body, without the white space that it stands behind there. -/
def outdented? (line : String) : Option String :=
  ("    ".toList.isPrefixOf? line.toList).map String.ofList

/-- The cid and the component in a comment `# cid (component)`. The cid ends where the first blank
is, and the component where the line ends. -/
def names? (line : String) : Option (String × String) := do
  let rest ← "# ".toList.isPrefixOf? line.toList
  let component ← " (".toList.isPrefixOf? (rest.dropWhile (· != ' '))
  let component ← [')'].isSuffixOf? component
  return (String.ofList (rest.takeWhile (· != ' ')), String.ofList component)

/-- The fragment in a group of lines. -/
def section? : List String → Option Section
  | [] => none
  | first :: lines => (names? first).map fun (cid, component) => ⟨cid, component, lines⟩

/-- The fragments in the text of a module. -/
def sections? (text : String) : Option (List Section) := do
  let body := (Text.lines text).drop 10
  let groups ← (body.dropLast.splitOn "").mapM (·.mapM outdented?)
  if groups = [["pass"]] then some [] else groups.mapM section?

theorem outdented?_indent (line : String) : outdented? (indent 1 ++ line) = some line := by
  have blanks : (indent 1 ++ line).toList = ' ' :: ' ' :: ' ' :: ' ' :: line.toList := by
    simp [indent]
  have rest : "    ".toList.isPrefixOf? (' ' :: ' ' :: ' ' :: ' ' :: line.toList) =
      some line.toList := rfl
  rw [outdented?, blanks, rest, Option.map_some, String.ofList_toList]

theorem outdented?_indented {line : String} (some : line ≠ "") :
    outdented? (indented 1 line) = .some line := by
  rw [indented_eq some, outdented?_indent]

theorem isSuffixOf?_concat (c : Char) (cs : List Char) :
    [c].isSuffixOf? (cs ++ [c]) = some cs := by
  have front : [c].isPrefixOf? (c :: cs.reverse) = some cs.reverse := by
    change (if c == c then some cs.reverse else none) = _
    rw [if_pos (beq_self_eq_true c)]
  change ([c].isPrefixOf? (cs ++ [c]).reverse).map List.reverse = _
  rw [List.reverse_append, List.reverse_singleton, List.singleton_append, front, Option.map_some,
    List.reverse_reverse]

theorem names?_header {fragment : Fragment} (plain : ' ' ∉ fragment.cid.toList) :
    names? fragment.header = some (fragment.cid, fragment.component) := by
  have each : ∀ c ∈ fragment.cid.toList, (c != ' ') = true := by
    intro c member
    exact bne_iff_ne.mpr fun same => plain (same ▸ member)
  have written : fragment.header.toList =
      '#' :: ' ' ::
        (fragment.cid.toList ++ ' ' :: '(' :: (fragment.component.toList ++ [')'])) := by
    simp [Fragment.header]
  have cid (rest : List Char) :
      (fragment.cid.toList ++ ' ' :: rest).takeWhile (· != ' ') = fragment.cid.toList := by
    rw [List.takeWhile_append_of_pos each]
    simp
  have later (rest : List Char) :
      (fragment.cid.toList ++ ' ' :: rest).dropWhile (· != ' ') = ' ' :: rest := by
    rw [List.dropWhile_append_of_pos each]
    simp
  have mark (rest : List Char) : "# ".toList.isPrefixOf? ('#' :: ' ' :: rest) = some rest := rfl
  have opening (rest : List Char) : " (".toList.isPrefixOf? (' ' :: '(' :: rest) = some rest := rfl
  simp only [names?, written, mark, Option.bind_eq_bind, Option.bind_some, later, opening,
    isSuffixOf?_concat, cid, String.ofList_toList]
  rfl

/-- A fragment that can be told from its text: its names are on one line and the cid without a
blank, and none of its lines is empty or broken. -/
structure Fragment.Readable (fragment : Fragment) : Prop where
  cid : OneLine fragment.cid
  plain : ' ' ∉ fragment.cid.toList
  component : OneLine fragment.component
  filled : ∀ line ∈ fragment.code.texts, line ≠ ""
  lines : ∀ line ∈ fragment.code.texts, OneLine line

theorem mapM_map_eq_some {α β γ : Type} {f : β → Option γ} {g : α → β} {h : α → γ} {items : List α}
    (each : ∀ a ∈ items, f (g a) = some (h a)) : (items.map g).mapM f = some (items.map h) := by
  induction items with
  | nil => rfl
  | cons a rest ih =>
    have later := ih fun b member => each b (List.mem_cons_of_mem _ member)
    rw [List.map_cons, List.mapM_cons, each a List.mem_cons_self, later]
    rfl

namespace Fragment.Readable

variable {fragment : Fragment} (readable : fragment.Readable)

include readable

theorem outdented : (fragment.lines 1).mapM outdented? =
    some (fragment.header :: fragment.code.texts) := by
  have code : (fragment.code.texts.map (indented 1)).mapM outdented? =
      some fragment.code.texts := by
    have each := mapM_map_eq_some (h := id) fun line member =>
      outdented?_indented (readable.filled line member)
    rwa [List.map_id] at each
  rw [Fragment.lines, List.mapM_cons, outdented?_indent, code]
  rfl

theorem section?_eq : section? (fragment.header :: fragment.code.texts) = some fragment.shown := by
  rw [section?, names?_header readable.plain]
  rfl

theorem oneLine : ∀ line ∈ fragment.lines 1, OneLine line := by
  have header : OneLine fragment.header := by
    have front := oneLine_append.mpr ⟨(by decide : OneLine "# "), readable.cid⟩
    exact oneLine_append.mpr ⟨.between front (by decide) readable.component, by decide⟩
  refine List.forall_mem_cons.mpr ⟨oneLine_append.mpr ⟨oneLine_indent 1, header⟩, ?_⟩
  intro line member
  obtain ⟨text, held, rfl⟩ := List.mem_map.mp member
  exact oneLine_indented 1 (readable.lines text held)

theorem not_mem_empty : "" ∉ fragment.lines 1 := by
  intro member
  have failed : outdented? "" = none := rfl
  rcases List.mem_cons.mp member with header | code
  · have read := outdented?_indent fragment.header
    rw [← header, failed] at read
    exact absurd read (by simp)
  · obtain ⟨text, held, same⟩ := List.mem_map.mp code
    have read := outdented?_indented (readable.filled text held)
    rw [same, failed] at read
    exact absurd read (by simp)

end Fragment.Readable

theorem oneLine_preamble {name : String} (one : OneLine name) :
    ∀ line ∈ Program.preamble name, OneLine line := by
  have around {opening closing : String} (left : OneLine opening) (right : OneLine closing) :
      OneLine (opening ++ name ++ closing) := .between left one right
  simp only [Program.preamble, List.forall_mem_cons]
  exact ⟨around (by decide) (by decide), by decide, by decide, by decide, by decide,
    around (by decide) (by decide), by decide, by decide, by decide, by decide,
    List.forall_mem_nil _⟩

namespace Program

variable {program : Program} (readable : ∀ fragment ∈ program, fragment.Readable)

include readable

theorem groups_apart : ∀ group ∈ program.groups, "" ∉ group ∧ ∀ line ∈ group, OneLine line := by
  unfold groups
  split
  · exact List.forall_mem_singleton.mpr (by decide)
  · intro group member
    obtain ⟨fragment, held, rfl⟩ := List.mem_map.mp member
    exact ⟨(readable fragment held).not_mem_empty, (readable fragment held).oneLine⟩

theorem groups_outdented (some : program ≠ []) : program.groups.mapM (·.mapM outdented?) =
    .some (program.map fun fragment => fragment.header :: fragment.code.texts) := by
  have filled : ¬program.isEmpty = true := fun empty => some (List.isEmpty_iff.mp empty)
  rw [groups, if_neg filled]
  exact mapM_map_eq_some fun fragment held => (readable fragment held).outdented

/-- The module of a program gives back its fragments. -/
theorem sections?_module {name : String} (one : OneLine name) :
    sections? (program.module name) = some (program.map Fragment.shown) := by
  have apart := groups_apart readable
  have body : ∀ line ∈ [""].intercalate program.groups, OneLine line := by
    refine forall_mem_intercalate (by decide) fun group member => (apart group member).2
  have lines : Text.lines (program.module name) =
      preamble name ++ ([""].intercalate program.groups ++ [""]) := by
    rw [module_eq, lines_unlines (by simp), List.append_assoc]
    simp only [List.forall_mem_append]
    exact ⟨⟨oneLine_preamble one, body⟩, by decide⟩
  have dropped : ((Text.lines (program.module name)).drop 10).dropLast =
      [""].intercalate program.groups := by
    have length : (preamble name).length = 10 := rfl
    rw [lines, List.drop_left' length, List.dropLast_concat]
  have split : ([""].intercalate program.groups).splitOn "" = program.groups :=
    List.splitOn_intercalate "" (fun group member => (apart group member).1) program.groups_ne_nil
  simp only [sections?, dropped, split]
  by_cases some : program = []
  · subst some
    rfl
  · -- No header reads like the one line of an empty body.
    have apart : program.map (fun f => f.header :: f.code.texts) ≠ [["pass"]] := by
      intro same
      obtain ⟨fragment, -, header⟩ := List.mem_map.mp (same ▸ List.mem_singleton_self ["pass"])
      have first := congrArg String.toList (List.cons.inj header).1
      simp [Fragment.header] at first
    rw [groups_outdented readable some]
    change (if _ then _ else _) = _
    rw [if_neg apart]
    exact mapM_map_eq_some fun fragment held => (readable fragment held).section?_eq

end Program

end Stagewright.Code
