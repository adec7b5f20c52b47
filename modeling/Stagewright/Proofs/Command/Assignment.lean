import Mathlib.Data.List.TakeWhile
import Stagewright.Command.Run
import Stagewright.Proofs.Value.Dict

/-!
What the assignments of a command line come to: the values that were assigned last, or the first
assignment without an equals sign, which is also the one that the command shows.
-/

namespace Stagewright.Variable

/-- An assignment gives the text after its first equals sign to the trimmed text before it. -/
def Assigns (source : String) (entry : String × String) : Prop :=
  ∃ name, source = name ++ "=" ++ entry.2 ∧ '=' ∉ name.toList ∧ entry.1 = Text.trim name

theorem assignment?_of_assigns {source : String} {entry : String × String}
    (assigns : Assigns source entry) : assignment? source = some entry := by
  obtain ⟨key, value⟩ := entry
  obtain ⟨name, rfl, plain, rfl⟩ := assigns
  have before : ∀ c ∈ name.toList, decide (c ≠ '=') = true := fun c member =>
    decide_eq_true fun sign => plain (sign ▸ member)
  have chars : (name ++ "=" ++ value).toList = name.toList ++ '=' :: value.toList := by simp
  rw [assignment?, chars]
  simp only [List.takeWhile_append_of_pos before, List.dropWhile_append_of_pos before]
  simp [Text.trim]

/-- Every text with an equals sign is an assignment. -/
theorem exists_assigns {source : String} (sign : '=' ∈ source.toList) :
    ∃ entry, Assigns source entry := by
  obtain ⟨before, after, split, plain⟩ := List.eq_append_cons_of_mem sign
  refine ⟨(Text.trim (String.ofList before), String.ofList after), String.ofList before, ?_, ?_,
    rfl⟩
  · refine String.toList_inj.mp ?_
    simp [split]
  · simpa using plain

theorem assignment?_eq_none {source : String} (plain : '=' ∉ source.toList) :
    assignment? source = none := by
  have gone : source.toList.dropWhile (· ≠ '=') = [] := by
    refine List.dropWhile_eq_nil_iff.mpr fun c member => ?_
    simpa using fun sign : c = '=' => plain (sign ▸ member)
  simp only [assignment?, gone]

theorem firstInvalid?_cons (source : String) (rest : List String) :
    firstInvalid? (source :: rest) =
      if '=' ∈ source.toList then firstInvalid? rest else some source := by
  by_cases sign : '=' ∈ source.toList <;> simp [firstInvalid?, sign]

/-- The invalid assignment that is searched for is the first one of its kind. -/
theorem firstInvalid?_eq_some_iff {sources : List String} {source : String} :
    firstInvalid? sources = some source ↔
      ∃ before after, sources = before ++ source :: after ∧ '=' ∉ source.toList ∧
        ∀ earlier ∈ before, '=' ∈ earlier.toList := by
  rw [firstInvalid?, List.find?_eq_some_iff_append]
  simp only [List.contains_eq_mem, Bool.not_eq_true', decide_eq_false_iff_not, Bool.not_not,
    decide_eq_true_eq]
  constructor
  · rintro ⟨plain, before, after, split, earlier⟩
    exact ⟨before, after, split, plain, earlier⟩
  · rintro ⟨before, after, split, plain, earlier⟩
    exact ⟨plain, before, after, split, earlier⟩

theorem firstInvalid?_eq_none_iff {sources : List String} :
    firstInvalid? sources = none ↔ ∀ source ∈ sources, '=' ∈ source.toList := by
  simp [firstInvalid?]

/-- Reading one more assignment. -/
def assign (d : Dict String String) (source : String) :
    Except AssignmentFault (Dict String String) :=
  match assignment? source with
  | some (key, value) => .ok (d.put key value)
  | none => .error ⟨source⟩

/-- Reading on with the assignments ends at the invalid one that is searched for, or else puts all
of them into what has been read. -/
theorem foldlM_assign (sources : List String) (d : Dict String String) :
    sources.foldlM assign d =
      match firstInvalid? sources with
      | some source => .error ⟨source⟩
      | none => .ok (d.update (sources.filterMap assignment?)) := by
  induction sources generalizing d with
  | nil => rfl
  | cons source rest ih =>
    rw [List.foldlM_cons, firstInvalid?_cons]
    by_cases sign : '=' ∈ source.toList
    · obtain ⟨entry, assigns⟩ := exists_assigns sign
      have here := assignment?_of_assigns assigns
      have one : assign d source = .ok (d.put entry.1 entry.2) := by rw [assign, here]
      rw [one, if_pos sign, List.filterMap_cons_some here]
      exact ih (d.put entry.1 entry.2)
    · have one : assign d source = .error ⟨source⟩ := by rw [assign, assignment?_eq_none sign]
      rw [one, if_neg sign]
      rfl

theorem assignments_eq (sources : List String) :
    assignments sources =
      match firstInvalid? sources with
      | some source => .error ⟨source⟩
      | none => .ok (Dict.update [] (sources.filterMap assignment?)) :=
  foldlM_assign sources []

theorem assignments_eq_error_iff {sources : List String} {fault : AssignmentFault} :
    assignments sources = .error fault ↔ firstInvalid? sources = some fault.source := by
  rw [assignments_eq]
  cases firstInvalid? sources with
  | none => simp
  | some source =>
    obtain ⟨named⟩ := fault
    simp

/-- Where assignments are read, each of them gives one entry, and these are put together. -/
theorem entries_of_assignments {sources : List String} {assigned : Dict String String}
    (read : assignments sources = .ok assigned) :
    ∃ entries, List.Forall₂ Assigns sources entries ∧ assigned = Dict.update [] entries := by
  rw [assignments_eq] at read
  cases valid : firstInvalid? sources with
  | some source => simp [valid] at read
  | none =>
    rw [valid] at read
    refine ⟨_, ?_, (Except.ok.inj read).symm⟩
    have signs := firstInvalid?_eq_none_iff.mp valid
    clear read valid
    induction sources with
    | nil => exact .nil
    | cons source rest ih =>
      obtain ⟨entry, assigns⟩ := exists_assigns (signs source List.mem_cons_self)
      rw [List.filterMap_cons_some (assignment?_of_assigns assigns)]
      exact .cons assigns (ih fun other later => signs other (List.mem_cons_of_mem _ later))

end Stagewright.Variable

namespace Stagewright.Command

open Variable

/-- Assignments that cannot be read are shown by the first of them, wherever the job file is. -/
theorem loadJob_bad_assignment {content : FileContent} (found : content ≠ .missing)
    (environment : Mapping) {invocation : Invocation} {fault : AssignmentFault}
    (bad : assignments invocation.assignments = .error fault) :
    loadJob content environment invocation =
      .error (.display 1 (displayProblem (.badVariable fault.source))) := by
  have searched := assignments_eq_error_iff.mp bad
  cases content with
  | missing => exact absurd rfl found
  | directory => simp only [loadJob, bad, searched, Option.getD_some]
  | bytes data => simp only [loadJob, bad, searched, Option.getD_some]

/-- Assignments are refused exactly if one of them has no equals sign, and then it is the first one
of these that the error names, that the command searches for and that it shows. Otherwise each key
holds the value of its last assignment, and the keys stand in the order of their first ones. -/
theorem assignments_refused_or_read (sources : List String) :
    ((∃ fault, assignments sources = .error fault) ↔ ∃ source ∈ sources, '=' ∉ source.toList) ∧
      (∀ fault, assignments sources = .error fault →
        (∃ before after, sources = before ++ fault.source :: after ∧ '=' ∉ fault.source.toList ∧
            ∀ earlier ∈ before, '=' ∈ earlier.toList) ∧
          fault.message =
            "Invalid variable assignment '" ++ fault.source ++ "', expected KEY=VALUE" ∧
          firstInvalid? sources = some fault.source ∧
          ∀ content environment action jobFile, content ≠ .missing →
            loadJob content environment ⟨action, jobFile, sources⟩ =
              .error (.display 1 (displayProblem (.badVariable fault.source)))) ∧
      ∀ assigned, assignments sources = .ok assigned →
        ∃ entries, List.Forall₂ Assigns sources entries ∧
          assigned.keys = (entries.map Prod.fst).eraseDups ∧
          ∀ key value, assigned.get? key = some value ↔
            ∃ before after, entries = before ++ (key, value) :: after ∧
              ∀ later ∈ after, later.1 ≠ key := by
  refine ⟨?_, fun fault refused => ?_, fun assigned read => ?_⟩
  · constructor
    · rintro ⟨fault, refused⟩
      obtain ⟨before, after, rfl, plain, -⟩ :=
        firstInvalid?_eq_some_iff.mp (assignments_eq_error_iff.mp refused)
      exact ⟨fault.source, by simp, plain⟩
    · rintro ⟨source, member, plain⟩
      cases searched : firstInvalid? sources with
      | none => exact absurd (firstInvalid?_eq_none_iff.mp searched source member) plain
      | some first => exact ⟨⟨first⟩, assignments_eq_error_iff.mpr searched⟩
  · have searched := assignments_eq_error_iff.mp refused
    refine ⟨firstInvalid?_eq_some_iff.mp searched, rfl, searched, ?_⟩
    intro content environment action jobFile found
    exact loadJob_bad_assignment found environment refused
  · obtain ⟨entries, assign, rfl⟩ := entries_of_assignments read
    exact ⟨entries, assign, Dict.keys_update_nil entries,
      fun key value => Dict.get?_update_nil_eq_some_iff⟩

/-- The second `x` counts, where the first one stood; of `b` and `c` the first is named. -/
theorem assignments_of_x_twice_and_b :
    (∃ assigned, assignments ["x=1", "y=2", " x = 3=4"] = .ok assigned ∧
        assigned.get? "x" = some " 3=4" ∧
        ∃ entries, List.Forall₂ Assigns ["x=1", "y=2", " x = 3=4"] entries ∧
          (entries.map Prod.fst).eraseDups = ["x", "y"]) ∧
      assignments ["a=1", "b", "c"] = .error ⟨"b"⟩ ∧
        loadJob .directory [] ⟨.plan, "j", ["a=1", "b", "c"]⟩ =
          .error (.display 1 (displayProblem (.badVariable "b"))) := by
  have read : assignments ["x=1", "y=2", " x = 3=4"] = .ok [("x", " 3=4"), ("y", "2")] := by
    decide +kernel
  have refused : assignments ["a=1", "b", "c"] = .error ⟨"b"⟩ := by decide +kernel
  obtain ⟨-, -, put⟩ := assignments_refused_or_read ["x=1", "y=2", " x = 3=4"]
  obtain ⟨entries, assign, keys, -⟩ := put _ read
  obtain ⟨-, shown, -⟩ := assignments_refused_or_read ["a=1", "b", "c"]
  refine ⟨⟨_, read, rfl, entries, assign, keys.symm⟩, refused, ?_⟩
  exact (shown ⟨"b"⟩ refused).2.2.2 .directory [] .plan "j" (by decide)

end Stagewright.Command
