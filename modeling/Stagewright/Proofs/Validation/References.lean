import Stagewright.Proofs.Job.Accepted
import Stagewright.Proofs.Text.Identifier
import Stagewright.Validation

/-!
What the checks of a job say about the connections that its stages refer to, where they say anything
at all. A message tells which stage it is about, so that what is said about a reference can be found
among all errors.
-/

namespace Stagewright

open Connection

theorem ValidationResult.errors_foldl (result : ValidationResult) (findings : List Finding) :
    (findings.foldl add result).errors =
      result.errors ++ (findings.filter fun f => !f.isWarning).map Finding.message := by
  induction findings generalizing result with
  | nil => simp
  | cons f rest ih =>
    rw [List.foldl_cons, ih]
    cases warning : f.isWarning with
    | true => simp [add, warning, addWarning]
    | false => simp [add, warning, addError]

/-- The errors are what is said by the findings that are no warnings. -/
theorem ValidationResult.mem_errors_iff {findings : List Finding} {message : String} :
    message ∈ (ofFindings findings).errors ↔
      ∃ f ∈ findings, f.isWarning = false ∧ f.message = message := by
  simp [ofFindings, errors_foldl, and_assoc]

/-- The stage that a finding is about. -/
def Finding.cid? : Finding → Option String
  | .unnamedShared cid | .unnamedAlias cid | .aliasIgnored cid | .missingClass cid
  | .missingUrl cid | .autoCommitIgnored cid | .defaultDriver cid | .missingConnection cid _
  | .unregistered cid _ => some cid
  | .noStages _ => none

/-- What is said about a stage begins with its cid. -/
theorem Finding.message_begins {f : Finding} {cid : String} (about : f.cid? = some cid) :
    ∃ rest, f.message.toList = cid.toList ++ ':' :: rest := by
  have colon {s : String} {rest : List Char} (begins : s = String.ofList (':' :: rest)) :
      ∃ rest, (cid ++ s).toList = cid.toList ++ ':' :: rest :=
    ⟨rest, by rw [String.toList_append, begins, String.toList_ofList]⟩
  cases f with
  | noStages job => exact absurd about (by simp [cid?])
  | missingConnection other kind =>
    obtain rfl := Option.some.inj about
    simp [message]
  | unregistered other connection =>
    obtain rfl := Option.some.inj about
    simp [message]
  | _ =>
    obtain rfl := Option.some.inj about
    exact colon rfl

namespace Validation

/-- The cids of the stages that get a connection. -/
def registered (stages : List Stage) : List String :=
  (stages.filter fun stage => stage.kind = StageKind.connection.name).map (·.cid)

/-- The findings about a stage that comes after the connections `known`. -/
def findingsAt (settings : Settings) (known : List String) (stage : Stage) : List Finding :=
  if stage.kind = StageKind.connection.name then connectionFindings ⟨stage, settings⟩
  else referenceFindings known ⟨stage, settings⟩

/-- The findings about stages, each of which knows the connections before it. -/
def stageFindings (settings : Settings) (known : List String) : List Stage → List Finding
  | [] => []
  | stage :: rest =>
    findingsAt settings known stage ++ stageFindings settings
      (if stage.kind = StageKind.connection.name then stage.cid :: known else known) rest

/-- What is too much in the parameters that the checks of a stage look at. -/
def stageExcess? (settings : Settings) (stage : Stage) : Option Excess :=
  View.excess? ⟨stage, settings⟩ (keys ⟨stage, settings⟩)

/-- What is too much in the first stage of a job that cannot be checked. -/
def excess? (job : Job) : Option Excess := job.stages.findSome? (stageExcess? job.settings)

theorem checkStage_eq (settings : Settings) (known : List String) (stage : Stage) :
    checkStage known ⟨stage, settings⟩ =
      match stageExcess? settings stage with
      | some e => .error e
      | none => .ok (findingsAt settings known stage) := by
  rw [checkStage, stageExcess?, findingsAt]
  cases View.excess? ⟨stage, settings⟩ (keys ⟨stage, settings⟩) with
  | some e => rfl
  | none => exact (apply_ite Except.ok _ _ _).symm

/-- Stages are checked one after the other, up to the first that cannot be. -/
theorem checkStages_eq (settings : Settings) (known : List String) (stages : List Stage) :
    checkStages settings known stages =
      match stages.findSome? (stageExcess? settings) with
      | some e => .error e
      | none => .ok (stageFindings settings known stages) := by
  induction stages generalizing known with
  | nil => rfl
  | cons stage rest ih =>
    rw [checkStages, checkStage_eq, List.findSome?_cons]
    cases stageExcess? settings stage with
    | some e => rfl
    | none =>
      simp only [ih]
      cases rest.findSome? (stageExcess? settings) <;> rfl

/-- All findings about a job. -/
def findings (job : Job) : List Finding :=
  stageFindings job.settings [] job.stages ++ finding job.stages.isEmpty (.noStages job.name)

/-- What the checks conclude from the findings. -/
def conclusion (job : Job) : ValidationResult := .ofFindings (findings job)

theorem validate_eq (job : Job) : validate job =
    match excess? job with
    | some e => .error e
    | none => .ok (conclusion job, [validated job (conclusion job)]) := by
  rw [validate, checkStages_eq, excess?]
  cases job.stages.findSome? (stageExcess? job.settings) <;> rfl

theorem validate_ok_iff {job : Job} {result : ValidationResult} {records : List Log.Record} :
    validate job = .ok (result, records) ↔
      excess? job = none ∧ conclusion job = result ∧ [validated job result] = records := by
  rw [validate_eq]
  cases excess? job with
  | some e => simp
  | none =>
    simp only [Except.ok.injEq, Prod.mk.injEq, true_and]
    refine and_congr_right ?_
    rintro rfl
    rfl

/-- The findings about stages are those about each of them, which knows the connections before
it. -/
theorem mem_stageFindings {settings : Settings} {known : List String} {stages : List Stage}
    {f : Finding} :
    f ∈ stageFindings settings known stages ↔ ∃ i stage, stages[i]? = some stage ∧
      f ∈ findingsAt settings ((registered (stages.take i)).reverse ++ known) stage := by
  induction stages generalizing known with
  | nil => simp [stageFindings]
  | cons first rest ih =>
    -- the stages behind the first one know what it has left them, whichever kind it is
    have later : ∃ onward, stageFindings settings known (first :: rest) =
        findingsAt settings known first ++ stageFindings settings onward rest ∧
        ∀ i, (registered ((first :: rest).take (i + 1))).reverse ++ known =
          (registered (rest.take i)).reverse ++ onward := by
      by_cases connection : first.kind = StageKind.connection.name
      · exact ⟨first.cid :: known, by simp [stageFindings, connection],
          by simp [registered, connection]⟩
      · exact ⟨known, by simp [stageFindings, connection], by simp [registered, connection]⟩
    obtain ⟨onward, split, knows⟩ := later
    rw [split, List.mem_append, ih]
    constructor
    · rintro (here | ⟨i, stage, place, found⟩)
      · exact ⟨0, first, rfl, by simpa [registered] using here⟩
      · exact ⟨i + 1, stage, place, knows i ▸ found⟩
    · rintro ⟨i, stage, place, found⟩
      cases i with
      | zero =>
        obtain rfl := Option.some.inj place
        exact .inl (by simpa [registered] using found)
      | succ i => exact .inr ⟨i, stage, place, knows i ▸ found⟩

theorem mem_finding {condition : Bool} {f found : Finding} :
    found ∈ finding condition f ↔ condition = true ∧ found = f := by
  unfold finding
  split <;> simp_all

theorem cid_of_connectionFindings {view : View} {f : Finding}
    (member : f ∈ connectionFindings view) : f.cid? = some view.cid := by
  have driver (member : f ∈ driverFindings view) : f.cid? = some view.cid := by
    unfold driverFindings at member
    split at member
    · simp only [List.mem_append, mem_finding] at member
      rcases member with (⟨-, rfl⟩ | ⟨-, rfl⟩) | ⟨-, rfl⟩ <;> rfl
    · obtain rfl := List.mem_singleton.mp member
      rfl
  simp only [connectionFindings, List.mem_append, mem_finding] at member
  rcases member with ((⟨-, rfl⟩ | ⟨-, rfl⟩) | ⟨-, rfl⟩) | rest
  · rfl
  · rfl
  · rfl
  · split at rest
    · exact absurd rest List.not_mem_nil
    · exact driver rest

theorem mem_referenceFindings {known : List String} {view : View} {f : Finding} :
    f ∈ referenceFindings known view ↔
      view.trimmed "connection" = "" ∧ f = .missingConnection view.cid view.stage.kind ∨
      view.trimmed "connection" ≠ "" ∧ view.trimmed "connection" ∉ known ∧
        f = .unregistered view.cid (view.trimmed "connection") := by
  simp only [referenceFindings]
  split
  · rename_i empty
    simp [String.isEmpty_iff.mp empty]
  · rename_i given
    have given : view.trimmed "connection" ≠ "" := fun same => given (by simp [same])
    simp [mem_finding, given]

theorem cid_of_findingsAt {settings : Settings} {known : List String} {stage : Stage}
    {f : Finding} (member : f ∈ findingsAt settings known stage) : f.cid? = some stage.cid := by
  unfold findingsAt at member
  split at member
  · exact cid_of_connectionFindings member
  · rcases mem_referenceFindings.mp member with ⟨-, rfl⟩ | ⟨-, -, rfl⟩
    · rfl
    · rfl

/-- What is said about the stage at a position is said by a finding about it: no other stage goes by
its cid. -/
theorem finding_of_message {job : Job} (accepted : job.Accepted) {i : Nat} {stage : Stage}
    (place : job.stages[i]? = some stage) {said : Finding} (about : said.cid? = some stage.cid)
    (reported : said.message ∈ (conclusion job).errors) :
    ∃ f ∈ findingsAt job.settings (registered (job.stages.take i)).reverse stage,
      f.message = said.message := by
  obtain ⟨f, found, error, same⟩ := ValidationResult.mem_errors_iff.mp reported
  rcases List.mem_append.mp found with atStage | unstaged
  · obtain ⟨j, other, otherPlace, member⟩ := mem_stageFindings.mp atStage
    obtain ⟨rest, chars⟩ := Finding.message_begins about
    obtain ⟨more, otherChars⟩ := Finding.message_begins (cid_of_findingsAt member)
    have identifier {i : Nat} {stage : Stage} (place : job.stages[i]? = some stage) :
        ':' ∉ stage.cid.toList :=
      Text.isIdentifier_no_colon (accepted.identifiers stage (List.mem_of_getElem? place))
    have cids : other.cid = stage.cid :=
      Text.eq_of_separated (identifier otherPlace) (identifier place)
        (otherChars.symm.trans ((congrArg String.toList same).trans chars))
    have inRange : j < job.cids.length := by
      have := (List.getElem?_eq_some_iff.mp otherPlace).1
      simpa [Job.cids] using this
    obtain rfl : j = i := (List.getElem?_inj inRange accepted.distinct).mp
      (by simp [Job.cids, place, otherPlace, cids])
    obtain rfl := Option.some.inj (place.symm.trans otherPlace)
    exact ⟨f, by simpa using member, same⟩
  · obtain ⟨-, rfl⟩ := mem_finding.mp unstaged
    exact absurd error (by simp [Finding.isWarning])

/-- The connection that a stage refers to. -/
def reference (job : Job) (stage : Stage) : String :=
  View.trimmed ⟨stage, job.settings⟩ "connection"

/-- The reference of a stage is among the errors of a result, as one that is missing or as one to a
connection that no earlier stage has registered. -/
def Reported (result : ValidationResult) (stage : Stage) : Prop :=
  (Finding.missingConnection stage.cid stage.kind).message ∈ result.errors ∨
    ∃ connection, (Finding.unregistered stage.cid connection).message ∈ result.errors

/-- A reference is reported exactly if no stage before gets the connection. -/
theorem reported_iff {job : Job} (accepted : job.Accepted) {i : Nat} {stage : Stage}
    (place : job.stages[i]? = some stage) (refers : stage.kind ≠ StageKind.connection.name) :
    Reported (conclusion job) stage ↔ reference job stage ∉ registered (job.stages.take i) := by
  have findings : findingsAt job.settings (registered (job.stages.take i)).reverse stage =
      referenceFindings (registered (job.stages.take i)).reverse ⟨stage, job.settings⟩ :=
    if_neg refers
  constructor
  · intro reported
    obtain ⟨said, about, inErrors⟩ : ∃ said : Finding, said.cid? = some stage.cid ∧
        said.message ∈ (conclusion job).errors := by
      rcases reported with missing | ⟨connection, unregistered⟩
      · exact ⟨_, rfl, missing⟩
      · exact ⟨_, rfl, unregistered⟩
    obtain ⟨f, member, -⟩ := finding_of_message accepted place about inErrors
    rw [findings] at member
    intro known
    rcases mem_referenceFindings.mp member with ⟨blank, -⟩ | ⟨-, unknown, -⟩
    · obtain ⟨other, found, cid⟩ := List.mem_map.mp known
      have inJob := List.mem_of_mem_take (List.mem_filter.mp found).1
      exact Text.isIdentifier_ne_empty (accepted.identifiers other inJob) (cid.trans blank)
    · exact unknown (List.mem_reverse.mpr known)
  · intro unknown
    have error {f : Finding} (warning : f.isWarning = false) (found : f ∈ referenceFindings
        (registered (job.stages.take i)).reverse ⟨stage, job.settings⟩) :
        f.message ∈ (conclusion job).errors := by
      refine ValidationResult.mem_errors_iff.mpr ⟨f, List.mem_append_left _ ?_, warning, rfl⟩
      exact mem_stageFindings.mpr ⟨i, stage, place, by simpa [findings] using found⟩
    by_cases blank : reference job stage = ""
    · exact .inl (error rfl (mem_referenceFindings.mpr (.inl ⟨blank, rfl⟩)))
    · refine .inr ⟨_, error rfl (mem_referenceFindings.mpr (.inr ⟨blank, ?_, rfl⟩))⟩
      exact fun known => unknown (List.mem_reverse.mp known)

end Validation

end Stagewright
