import Stagewright.Command.Run
import Stagewright.Proofs.Job.Prefix
import Stagewright.Proofs.Yaml.Document

/-!
What comes of loading a file. Either there is a job in it, or it is said what is wrong with the job;
but there are faults that are not said: bytes that are no text, a scalar that denotes nothing, and
too much of something.
-/

namespace Stagewright

open Attempt Variable

namespace Job

/-- There is a job, or an error of the job. -/
def Answered (outcome : Except LoadError Job) : Prop :=
  (∃ job, outcome = .ok job) ∨ ∃ e, outcome = .error (.job e)

/-- Nothing that is put in or written out when a document is read is too much, and no stage is
refused for a text that is nested too deep. -/
def Fits (document overrides environment : Mapping) (source : Option String) : Prop :=
  ∀ own, Value.entries? (document.get? "variables") = some own →
    let scope := scopeOf environment own overrides
    Bounded scope Excess.mostLevels (.map (body document)) ∧
      (Value.given? (Mapping.get? (body document) "job")).bind Value.excess? = none ∧
      ∀ position, ofResolved (substituteEntries scope (body document)).1 source ≠
        .error (.badStage position (.unwritable .depth))

section Reading

variable {document overrides environment : Mapping} {source : Option String}

theorem answered_conclude_iff {resolved : Mapping} {records : List Log.Record} :
    Answered (conclude resolved source records).1 ↔
      (Value.given? (resolved.get? "job")).bind Value.excess? = none ∧
        ∀ position, ofResolved resolved source ≠
          .error (.badStage position (.unwritable .depth)) := by
  unfold conclude
  cases (Value.given? (resolved.get? "job")).bind Value.excess? with
  | some e => simp [Answered]
  | none =>
    cases ofResolved resolved source with
    | ok job => simp [Answered]
    | error fault =>
      rcases LoadError.ofFault_cases fault source with told | ⟨told, position, rfl⟩
      · have shallow (position : Nat) : fault ≠ .badStage position (.unwritable .depth) := by
          rintro rfl
          simp [LoadError.ofFault] at told
        simp [Answered, told, shallow]
      · simp [Answered, told]

/-- What is read of a document is answered exactly if it fits. -/
theorem answered_read_iff :
    Answered (Job.read document overrides environment source).1 ↔
      Fits document overrides environment source := by
  cases declared : Value.entries? (document.get? "variables") with
  | none => simp [read_of_undeclared source declared, Answered, Fits, declared]
  | some own =>
    have fits : Fits document overrides environment source ↔
        Bounded (scopeOf environment own overrides) Excess.mostLevels (.map (body document)) ∧ _ :=
      ⟨fun fits => fits own declared, fun fits other same => by
        obtain rfl := Option.some.inj (declared.symm.trans same)
        exact fits⟩
    rw [fits, ← Reach.ofValue_stop_eq_none]
    cases stop : (Reach.ofValue (scopeOf environment own overrides) Excess.mostLevels
      (.map (body document))).stop with
    | some e => simp [read_of_stop source declared stop, Answered]
    | none => rw [read_of_goesOn source declared stop, answered_conclude_iff, name_excess?,
        eq_self, true_and]

/-- What is not answered says that there is too much of something. -/
theorem excess_of_unanswered
    (unanswered : ¬Answered (Job.read document overrides environment source).1) :
    ∃ e, (Job.read document overrides environment source).1 = .error (.excess e) := by
  unfold Job.read at unanswered ⊢
  cases tooMuch : excess? document overrides environment with
  | some found => exact ⟨found.1, rfl⟩
  | none =>
    cases ended : (ofDocument document overrides environment source).1 with
    | ok job => exact absurd (.inl ⟨job, by simp [tooMuch, ended, Except.mapError]⟩) unanswered
    | error e =>
      simp only [tooMuch, ended, Except.mapError] at unanswered ⊢
      rcases LoadError.ofFault_cases e.fault e.source with told | ⟨deep, -⟩
      · exact absurd (.inr ⟨_, congrArg _ told⟩) unanswered
      · exact ⟨.depth, congrArg _ deep⟩

/-- An error of a job names the place that the job comes from. -/
theorem source_of_read_error {e : JobError}
    (refused : (Job.read document overrides environment source).1 = .error (.job e)) :
    e.source = source := by
  cases declared : Value.entries? (document.get? "variables") with
  | none =>
    rw [read_of_undeclared source declared] at refused
    obtain rfl := LoadError.job.inj (Except.error.inj refused)
    rfl
  | some own =>
    obtain ⟨-, -, -, told⟩ := (read_error_iff declared).mp refused
    rw [LoadError.ofFault_eq_job told]

end Reading

/-- A document that cannot be read is a malformed job if only its form is wrong, and escapes
otherwise. -/
theorem documentOf_unreadable {data : List UInt8} {f : Yaml.Fault} (path : String)
    (failed : Yaml.Document.read (.ofBytes data) = .error f) :
    documentOf path data =
      .error (if f.isOfForm then .job ⟨.malformed, some path⟩ else .document f) := by
  unfold documentOf
  rw [failed]
  cases f <;> rfl

/-- A file without a mapping is answered, or cannot be read as a document. -/
theorem documentOf_error {path : String} {data : List UInt8} {e : LoadError}
    (failed : documentOf path data = .error e) :
    (∃ fault, e = .job ⟨fault, some path⟩) ∨
      ∃ f, e = .document f ∧ f.isOfForm = false ∧
        Yaml.Document.read (.ofBytes data) = .error f := by
  cases read : Yaml.Document.read (.ofBytes data) with
  | error f =>
    rw [documentOf_unreadable path read] at failed
    obtain rfl := Except.error.inj failed
    cases form : f.isOfForm with
    | true => exact .inl ⟨.malformed, rfl⟩
    | false => exact .inr ⟨f, rfl, form, rfl⟩
  | ok found =>
    refine .inl ?_
    unfold documentOf at failed
    rw [read] at failed
    cases found with
    | none => exact ⟨.empty, (Except.error.inj failed).symm⟩
    | some document =>
      dsimp only at failed
      split at failed
      · exact ⟨.empty, (Except.error.inj failed).symm⟩
      · exact absurd failed (by simp)
      · exact ⟨.notMapping, (Except.error.inj failed).symm⟩

/-- What comes of a file, by what can be read of it. -/
theorem ofFile_bytes (path : String) (data : List UInt8) (overrides environment : Mapping) :
    (ofFile path (.bytes data) overrides environment).1 =
      match documentOf path data with
      | .error e => .error e
      | .ok document => (Job.read document overrides environment (some path)).1 := by
  unfold ofFile
  dsimp only
  cases documentOf path data <;> rfl

/-- A file is answered exactly if nothing is wrong with its document but its form, and what there is
in it fits. -/
theorem answered_ofFile_iff (path : String) (data : List UInt8) (overrides environment : Mapping) :
    Answered (ofFile path (.bytes data) overrides environment).1 ↔
      (∀ f, Yaml.Document.read (.ofBytes data) = .error f → f.isOfForm = true) ∧
        ∀ document, documentOf path data = .ok document →
          Fits document overrides environment (some path) := by
  rw [ofFile_bytes]
  cases found : documentOf path data with
  | ok document =>
    have readable : ∀ f, Yaml.Document.read (.ofBytes data) = .error f → f.isOfForm = true := by
      intro f failed
      rw [documentOf_unreadable path failed] at found
      exact absurd found (by simp)
    simp [answered_read_iff, and_iff_right readable]
  | error e =>
    rcases documentOf_error found with ⟨fault, rfl⟩ | ⟨f, rfl, escapes, failed⟩
    · refine iff_of_true (.inr ⟨_, rfl⟩) ⟨fun f failed => ?_, fun _ same => nomatch same⟩
      rw [documentOf_unreadable path failed] at found
      by_contra escapes
      simp [escapes] at found
    · refine iff_of_false (by simp [Answered]) fun readable => ?_
      rw [readable.1 f failed] at escapes
      exact absurd escapes (by simp)

/-- What is not answered is the fault of a document, with its cause, or too much of something. -/
theorem cause_of_unanswered {path : String} {data : List UInt8} {overrides environment : Mapping}
    (unanswered : ¬Answered (ofFile path (.bytes data) overrides environment).1) :
    (∃ f, (ofFile path (.bytes data) overrides environment).1 = .error (.document f) ∧
      f.Cause (.ofBytes data)) ∨
    ∃ document e, (ofFile path (.bytes data) overrides environment).1 = .error (.excess e) ∧
      documentOf path data = .ok document ∧
        ¬Fits document overrides environment (some path) := by
  rw [ofFile_bytes] at unanswered ⊢
  cases found : documentOf path data with
  | error e =>
    rw [found] at unanswered
    rcases documentOf_error found with ⟨fault, rfl⟩ | ⟨f, rfl, escapes, failed⟩
    · exact absurd (.inr ⟨_, rfl⟩) unanswered
    · have cause := (failed ▸ Yaml.Document.meets_read (.ofBytes data)).of_error
      exact .inl ⟨f, rfl, cause.resolve_left (by simp [escapes])⟩
  | ok document =>
    rw [found] at unanswered
    have exceeds := mt answered_read_iff.mpr unanswered
    refine .inr ?_
    obtain ⟨e, ended⟩ := excess_of_unanswered unanswered
    exact ⟨document, e, ended, rfl, exceeds⟩

theorem ofFile_undecodable {path : String} {data : List UInt8} {overrides environment : Mapping}
    (bad : Text.decodeUtf8? data = none) (job : Job) :
    (ofFile path (.bytes data) overrides environment).1 ≠ .ok job := by
  intro loaded
  rw [ofFile_bytes] at loaded
  have breaksOff := Yaml.Source.ending_ofBytes_of_bad bad
  cases read : Yaml.Document.read (.ofBytes data) with
  | ok found =>
    have whole := (read ▸ Yaml.Document.meets_read (.ofBytes data)).of_ok
    exact absurd breaksOff (by simp [whole])
  | error f =>
    rw [documentOf_unreadable path read] at loaded
    exact absurd loaded (by simp)

/-- A command that loads a job lets an error escape exactly if it is not one of the job. -/
theorem escapes_loadJob_iff (data : List UInt8) (environment : Mapping)
    (invocation : Command.Invocation) :
    (∃ e, Command.loadJob (.bytes data) environment invocation = .error (.escape e)) ↔
      ∃ assigned, Variable.assignments invocation.assignments = .ok assigned ∧
        ¬Answered (ofFile invocation.jobFile (.bytes data)
          (assigned.map fun e => (.text e.1, .text e.2)) environment).1 := by
  unfold Command.loadJob
  dsimp only
  cases Variable.assignments invocation.assignments with
  | error e => simp
  | ok assigned =>
    simp only [Except.ok.injEq, exists_eq_left']
    cases loaded : (ofFile invocation.jobFile (.bytes data)
      (assigned.map fun e => (Scalar.text e.1, Value.text e.2)) environment).1 with
    | error e => cases e <;> simp [Answered]
    | ok job => simp [Answered]

/-- Loading a file gives a job, or an error that names the file, exactly if nothing is wrong with
the document but its form and what is in it fits. Whatever else comes of it is the fault of a
document, which has its cause in the text, or it says that something is too much. Bytes that are no
text are never loaded, and only they are refused as such. A command that loads the file explains the
errors of the job and no others. -/
theorem loaded_or_caused (path : String) (data : List UInt8) (overrides environment : Mapping) :
    let outcome := (ofFile path (.bytes data) overrides environment).1
    (Answered outcome ↔
      (∀ f, Yaml.Document.read (.ofBytes data) = .error f → f.isOfForm = true) ∧
        ∀ document, documentOf path data = .ok document →
          Fits document overrides environment (some path)) ∧
    (∀ e, outcome = .error (.job e) → e.source = some path) ∧
    (¬Answered outcome →
      (∃ f, outcome = .error (.document f) ∧ f.Cause (.ofBytes data)) ∨
        ∃ document e, outcome = .error (.excess e) ∧ documentOf path data = .ok document ∧
          ¬Fits document overrides environment (some path)) ∧
    (Text.decodeUtf8? data = none → ∀ job, outcome ≠ .ok job) ∧
    (outcome = .error (.document .undecodable) → Text.decodeUtf8? data = none) ∧
    ∀ invocation : Command.Invocation,
      (∃ e, Command.loadJob (.bytes data) environment invocation = .error (.escape e)) ↔
        ∃ assigned, Variable.assignments invocation.assignments = .ok assigned ∧
          ¬Answered (ofFile invocation.jobFile (.bytes data)
            (assigned.map fun e => (.text e.1, .text e.2)) environment).1 := by
  intro outcome
  refine ⟨answered_ofFile_iff path data overrides environment, fun e refused => ?source,
    cause_of_unanswered, ofFile_undecodable, fun refused => ?undecodable,
    escapes_loadJob_iff data environment⟩
  case source =>
    have refused : outcome = .error (.job e) := refused
    rw [show outcome = _ from ofFile_bytes path data overrides environment] at refused
    cases found : documentOf path data with
    | ok document =>
      rw [found] at refused
      exact source_of_read_error refused
    | error failure =>
      rw [found] at refused
      obtain rfl := Except.error.inj refused
      rcases documentOf_error found with ⟨fault, same⟩ | ⟨f, same, -⟩
      · rw [LoadError.job.inj same]
      · exact absurd same (by simp)
  case undecodable =>
    have unanswered : ¬Answered outcome := by simp [refused, Answered]
    rcases cause_of_unanswered unanswered with ⟨f, same, cause⟩ | ⟨document, e, same, -⟩
    · obtain rfl := LoadError.document.inj (Except.error.inj (refused.symm.trans same))
      exact cause.undecodable
    · exact absurd (refused.symm.trans same) (by simp)

/-- A byte that begins no character is neither a job nor an error of one. -/
theorem bad_byte_not_answered :
    (ofFile "j.yml" (.bytes [0xff]) [] []).1 = .error (.document .undecodable) ∧
      ¬Answered (ofFile "j.yml" (.bytes [0xff]) [] []).1 := by
  have tokens : Yaml.tokens (.ofBytes [0xff]) = ([], some .undecodable) := by decide +kernel
  have read : Yaml.Document.read (.ofBytes [0xff]) = .error .undecodable := by
    rw [Yaml.Document.read, tokens]
    rfl
  have refused : (ofFile "j.yml" (.bytes [0xff]) [] []).1 = .error (.document .undecodable) := by
    rw [ofFile_bytes, documentOf_unreadable "j.yml" read]
    rfl
  exact ⟨refused, by simp [refused, Answered]⟩

end Job

end Stagewright
