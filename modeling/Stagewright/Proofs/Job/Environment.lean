import Stagewright.Proofs.Job.Entry
import Stagewright.Proofs.Job.Resolved
import Stagewright.Proofs.Variable.Precedence
import Stagewright.Proofs.Variable.Resolution

/-!
Which variables count in a document, and what it takes from its environment. What is read is read of
the document with its references replaced, so that it depends on the environment for no more than
the names that are asked for and said nothing about elsewhere.
-/

namespace Stagewright.Job

open Variable

/-- The part of a document that is searched for references. -/
def body (document : Mapping) : Mapping := document.erase (.text "variables")

/-- A reference that stands in a text of the document, outside its variables. -/
def Asks (document : Mapping) (r : Reference) : Prop :=
  ∃ s ∈ (Value.map (body document)).texts, r ∈ references s

/-- What is read of a document whose references have been replaced, with what has been logged about
them. -/
def conclude (resolved : Mapping) (source : Option String) (records : List Log.Record) :
    Except LoadError Job × List Log.Record :=
  match (Value.given? (resolved.get? "job")).bind Value.excess? with
  | some e => (.error (.excess e), records)
  | none =>
    match ofResolved resolved source with
    | .ok job => (.ok job, records ++ [job.loaded])
    | .error fault => (.error (.ofFault fault source), records)

section Reading

variable {document overrides environment own : Mapping}

/-- Nothing is read if the references cannot be replaced. -/
theorem read_of_stop (source : Option String)
    (declared : Value.entries? (document.get? "variables") = some own) {e : Excess}
    (ends : (Reach.ofValue (scopeOf environment own overrides) Excess.mostLevels
      (.map (body document))).stop = some e) :
    Job.read document overrides environment source =
      (.error (.excess e), (Reach.ofValue (scopeOf environment own overrides) Excess.mostLevels
        (.map (body document))).records) := by
  rw [body, Reach.ofValue_mostLevels] at ends ⊢
  simp only [Job.read, excess?, declared, Option.bind_some, ends]

/-- If they can be, all that counts is what they have left of the document. -/
theorem read_of_goesOn (source : Option String)
    (declared : Value.entries? (document.get? "variables") = some own)
    (goesOn : (Reach.ofValue (scopeOf environment own overrides) Excess.mostLevels
      (.map (body document))).stop = none) :
    Job.read document overrides environment source =
      conclude (substituteEntries (scopeOf environment own overrides) (body document)).1 source
        ((Value.map (body document)).texts.flatMap
          (warnings (scopeOf environment own overrides))) := by
  have logged := Reach.ofValue_records goesOn
  have replaced := substituteValue_records (scopeOf environment own overrides)
    (.map (body document))
  have name := name_excess? (scopeOf environment own overrides) (body document)
  rw [substituteValue] at replaced
  rw [Reach.ofValue_mostLevels] at goesOn logged
  rw [conclude, name]
  -- whether the name can be written out is seen before its references are replaced
  cases named : (Value.given? (Mapping.get? (body document) "job")).bind Value.excess? with
  | none =>
    have fits := (excess?_eq_none_iff declared).mpr ⟨goesOn, named⟩
    simp only [← replaced, Job.read, fits, ofDocument, declared, ← body.eq_def]
    cases ofResolved (substituteEntries (scopeOf environment own overrides) (body document)).1
      source <;> rfl
  | some e =>
    rw [← logged]
    rw [body] at goesOn named ⊢
    simp only [Job.read, excess?, declared, Option.bind_some, goesOn, named, Option.map_some]

/-- Variables that are no mapping are reported before anything is looked up. -/
theorem read_of_undeclared (source : Option String)
    (undeclared : Value.entries? (document.get? "variables") = none) :
    Job.read document overrides environment source =
      (.error (.job ⟨.badVariables, source⟩), []) := by
  have fits : excess? document overrides environment = none := by
    rw [excess?, undeclared, Option.bind_none]
  simp only [Job.read, fits, ofDocument, undeclared]
  rfl

end Reading

/-- Two environments say the same about every name that the document asks for and that neither the
overrides nor its own variables know. -/
def AgreeWhereAsked (document overrides environment other : Mapping) : Prop :=
  ∀ own, Value.entries? (document.get? "variables") = some own → ∀ r, Asks document r →
    overrides.get? r.name = none → own.get? r.name = none →
      environment.get? r.name = other.get? r.name

/-- The same is read in two environments that agree where they are asked. -/
theorem AgreeWhereAsked.read_eq {document overrides environment other : Mapping}
    (agree : AgreeWhereAsked document overrides environment other) (source : Option String) :
    Job.read document overrides environment source =
      Job.read document overrides other source := by
  cases declared : Value.entries? (document.get? "variables") with
  -- without variables to look at neither environment is asked for anything
  | none => rw [read_of_undeclared source declared, read_of_undeclared source declared]
  | some own =>
    have alike : ∀ s ∈ (Value.map (body document)).texts,
        AgreeOn (scopeOf environment own overrides) (scopeOf other own overrides) s :=
      fun s held r asked => scopeOf_get?_congr (agree own declared r ⟨s, held, asked⟩)
    have reach : Reach.ofValue (scopeOf environment own overrides) Excess.mostLevels
        (.map (body document)) = Reach.ofValue (scopeOf other own overrides) Excess.mostLevels
        (.map (body document)) := Reach.ofValue_congr alike
    have replacing := substituteValue_congr alike
    have logged := congrArg Prod.snd replacing
    rw [substituteValue_records, substituteValue_records] at logged
    have entries : (substituteEntries (scopeOf environment own overrides) (body document)).1 =
        (substituteEntries (scopeOf other own overrides) (body document)).1 := by
      simpa [substituteValue] using congrArg Prod.fst replacing
    cases stop : (Reach.ofValue (scopeOf other own overrides) Excess.mostLevels
      (.map (body document))).stop with
    | some e =>
      rw [read_of_stop source declared stop, read_of_stop source declared (reach ▸ stop), reach]
    | none =>
      rw [read_of_goesOn source declared stop, read_of_goesOn source declared (reach ▸ stop),
        entries, logged]

/-- What stands for a reference is decided by the overrides first, then by the variables of the
document, then by the environment and last by the default. What is read is read of the document with
all its references settled in that way, and fails only for what cannot be written out or walked
through. So the environment counts for no more than the names that are asked for and that neither
the overrides nor the document know. -/
theorem read_by_precedence (document overrides environment : Mapping) (source : Option String)
    (keyed : (Value.map document).Keyed) (distinct : Dict.Distinct overrides) :
    (∀ own, Value.entries? (document.get? "variables") = some own →
      let scope := scopeOf environment own overrides
      let rest := Value.map (body document)
      (∀ r : Reference, r.inserted scope = r.settled overrides own environment) ∧
      (Bounded scope Excess.mostLevels rest →
        ∃ resolved, Rewritten (replaced scope) rest (.map resolved) ∧
          Job.read document overrides environment source =
            conclude resolved source (rest.texts.flatMap (warnings scope))) ∧
      (¬Bounded scope Excess.mostLevels rest →
        ∃ e, (Job.read document overrides environment source).1 = .error (.excess e) ∧
          Exceeds scope Excess.mostLevels rest e)) ∧
    ∀ other, AgreeWhereAsked document overrides environment other →
      Job.read document overrides environment source =
        Job.read document overrides other source := by
  refine ⟨fun own declared => ?_, fun other agree => agree.read_eq source⟩
  obtain ⟨ownDistinct, -⟩ := Value.keyed_map.mp (keyed.entries? declared)
  refine ⟨inserted_scopeOf distinct ownDistinct environment, fun bounded => ?_, fun exceeds => ?_⟩
  · have rewritten := substituteValue_rewritten (scopeOf environment own overrides)
      (.map (body document))
    rw [substituteValue] at rewritten
    exact ⟨_, rewritten, read_of_goesOn source declared (Reach.ofValue_stop_eq_none.mpr bounded)⟩
  · cases stop : (Reach.ofValue (scopeOf environment own overrides) Excess.mostLevels
      (.map (body document))).stop with
    | none => exact absurd (Reach.ofValue_stop_eq_none.mp stop) exceeds
    | some e =>
      refine ⟨e, ?_, Reach.ofValue_stop_eq_some stop⟩
      rw [read_of_stop source declared stop]

def layeredVariables : Mapping := [(.text "a", .text "file"), (.text "b", .text "file")]

/-- A document that asks for five names, two of them its own. -/
def layered : Mapping :=
  [(.text "job", .text "$\x7ba\x7d-$\x7bb\x7d-$\x7bc\x7d-$\x7bd|x\x7d-$\x7be\x7d"),
    (.text "variables", .map layeredVariables)]

def layeredOverrides : Mapping := [(.text "a", .text "override")]

def layeredEnvironment : Mapping :=
  [(.text "a", .text "shell"), (.text "b", .text "shell"), (.text "c", .text "shell")]

/-- This one differs in names that are known without it, and in one that is not asked for. -/
def otherEnvironment : Mapping :=
  [(.text "z", .text "other"), (.text "c", .text "shell"), (.text "b", .text "other")]

def layeredScope : Scope := scopeOf layeredEnvironment layeredVariables layeredOverrides

/-- The name of the job takes something from everywhere. -/
example : (Job.read layered layeredOverrides layeredEnvironment none).1.toOption.map (·.name) =
    some "override-file-shell-x-$\x7be\x7d" := by decide +kernel

theorem layered_agree :
    AgreeWhereAsked layered layeredOverrides layeredEnvironment otherEnvironment := by
  rintro own declared r ⟨s, held, asked⟩ overridden unknown
  obtain rfl := Option.some.inj declared
  obtain rfl := List.mem_singleton.mp held
  have named := List.mem_map_of_mem (f := Reference.name) asked
  have names : (references "$\x7ba\x7d-$\x7bb\x7d-$\x7bc\x7d-$\x7bd|x\x7d-$\x7be\x7d").map
      Reference.name = ["a", "b", "c", "d", "e"] := by decide +kernel
  rw [names] at named
  generalize r.name = name at named overridden unknown
  simp only [List.mem_cons, List.not_mem_nil, or_false] at named
  obtain rfl | rfl | rfl | rfl | rfl := named
  · exact absurd overridden (by decide)
  · exact absurd unknown (by decide)
  · rfl
  · rfl
  · rfl

theorem read_layered_by_precedence :
    (Value.map layered).Keyed ∧ Dict.Distinct layeredOverrides ∧
      AgreeWhereAsked layered layeredOverrides layeredEnvironment otherEnvironment ∧
      (∃ resolved, Rewritten (replaced layeredScope) (.map (body layered)) (.map resolved) ∧
        Job.read layered layeredOverrides layeredEnvironment none =
          conclude resolved none
            ((Value.map (body layered)).texts.flatMap (warnings layeredScope))) ∧
      Job.read layered layeredOverrides layeredEnvironment none =
        Job.read layered layeredOverrides otherEnvironment none := by
  have keyed : (Value.map layered).Keyed := by
    have own : (Value.map layeredVariables).Keyed := .map (by decide) (by
      simpa [layeredVariables] using .text)
    exact .map (by decide) (by simpa [layered] using ⟨.text, own⟩)
  have distinct : Dict.Distinct layeredOverrides := by decide
  obtain ⟨precedence, same⟩ := read_by_precedence layered layeredOverrides layeredEnvironment none
    keyed distinct
  obtain ⟨-, replacing, -⟩ := precedence layeredVariables rfl
  have goesOn : (Reach.ofValue layeredScope Excess.mostLevels (.map (body layered))).stop = none :=
    by decide +kernel
  exact ⟨keyed, distinct, layered_agree, replacing (Reach.ofValue_stop_eq_none.mp goesOn),
    same otherEnvironment layered_agree⟩

/-- A document whose only reference asks for a number of too many digits. -/
def unwritable : Mapping :=
  [(.text "job", .text "$\x7bn\x7d"),
    (.text "variables", .map [(.text "n", .int (Nat.pow 10 Excess.mostDigits))])]

/-- A document with the same text as the name of a parameter and as its value. -/
def askingTwice : Mapping :=
  [(.text "job", .text "j"), (.text "variables", .map [(.text "n", .text "given")]),
    (.text "stages", .list [.map [(.text "cid", .text "c"),
      (.text "params", .map [(.text "$\x7bn\x7d", .text "$\x7bn\x7d")])]])]

/-- A variable that is declared is not always put in: not if it cannot be written out, and not in
the name of a parameter. -/
theorem declared_not_always_put_in :
    (∃ r, Asks unwritable r ∧ r.name = "n") ∧
      (Job.read unwritable [] [] none).1 = .error (.excess .digits) ∧
      ∃ stage, (Job.read askingTwice [] [] none).1.toOption.map (·.stages) = some [stage] ∧
        stage.params.get? "$\x7bn\x7d" = some (.text "given") := by
  refine ⟨⟨⟨"n", none, "$\x7bn\x7d", 0, 4⟩, ⟨"$\x7bn\x7d", .head _, .head _⟩, rfl⟩, ?_, ?_⟩
  · have declared : Value.entries? (unwritable.get? "variables") =
        some [(.text "n", .int (Nat.pow 10 Excess.mostDigits))] := by rfl
    have stop : (Reach.ofValue (scopeOf [] [(.text "n", .int (Nat.pow 10 Excess.mostDigits))] [])
        Excess.mostLevels (.map (body unwritable))).stop = some .digits := by decide +kernel
    rw [read_of_stop none declared stop]
  · exact ⟨_, rfl, rfl⟩

end Stagewright.Job
