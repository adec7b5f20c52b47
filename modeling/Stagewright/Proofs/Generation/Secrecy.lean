import Mathlib.Data.List.Forall2
import Stagewright.Proofs.Generation.Agreement
import Stagewright.Proofs.Value.Dict

/-!
What the generated program tells about a password. Where a stage holds an encrypted form, its own
password decides at most whether there is one, and its text is found nowhere.
-/

namespace Stagewright

/-- The stage with a parameter set to a value. -/
def Stage.withParam (stage : Stage) (key : String) (value : Value) : Stage :=
  { stage with params := stage.params.put (.text key) value }

/-- The job with another stage at a position. -/
def Job.withStage (job : Job) (i : Nat) (stage : Stage) : Job :=
  { job with stages := job.stages.set i stage }

theorem Stage.withParam_agrees (stage : Stage) (settings : Settings) (key : String)
    (value : Value) :
    View.Agrees {key}ᶜ ⟨stage, settings⟩ ⟨stage.withParam key value, settings⟩ where
  cid := rfl
  component := rfl
  logEnabled := rfl
  param _ other := (Mapping.get?_put_of_ne stage.params value other).symm

/-- A list is related to one that differs from it at one place if the two items there are. -/
theorem forall₂_set {α : Type} {R : α → α → Prop} (refl : ∀ a, R a a) {items : List α} {i : Nat}
    {a b : α} (place : items[i]? = some a) (related : R a b) :
    List.Forall₂ R items (items.set i b) := by
  have same (items : List α) : List.Forall₂ R items items :=
    List.forall₂_same.mpr fun a _ => refl a
  induction items generalizing i with
  | nil => exact .nil
  | cons first rest ih =>
    cases i with
    | zero =>
      obtain rfl : first = a := by simpa using place
      exact .cons related (same rest)
    | succ i => exact .cons (refl first) (ih (by simpa using place))

namespace Connection

open Code Lifecycle

/-- The password itself is read only where it is neither blank nor encrypted. -/
theorem Credentials.statements_agrees {v w : View} {names : Names} (agrees : v.Agrees {"user"} w)
    (blank : v.isBlank "password" = w.isBlank "password")
    (encrypted : v.stage.encrypted = w.stage.encrypted)
    (hidden : v.isEncrypted "password" = true) :
    Credentials.statements { view := v, names } = Credentials.statements { view := w, names } := by
  have hidden' : w.isEncrypted "password" = true := by
    rw [← hidden, View.isEncrypted, View.isEncrypted, encrypted]
  have mode : Credentials.mode { view := v, names } = Credentials.mode { view := w, names } := by
    simp only [Credentials.mode, blank, hidden, hidden']
  have secret : v.encryptedText "password" = w.encryptedText "password" := by
    rw [View.encryptedText, View.encryptedText, encrypted]
  have notPlain : Credentials.mode { view := w, names } ≠ .plain := by
    simp only [Credentials.mode, hidden']
    split <;> simp
  have user : Credentials.userBinding { view := v, names } =
      Credentials.userBinding { view := w, names } := by
    simp only [Credentials.userBinding, agrees.get rfl, agrees.isBlank rfl]
  have password : Credentials.passwordBindings { view := v, names } =
      Credentials.passwordBindings { view := w, names } := by
    simp only [Credentials.passwordBindings, mode, secret]
    split
    · rfl
    · rfl
    · exact absurd ‹_› notPlain
  rw [Credentials.statements, Credentials.statements, user, password]

end Connection

namespace Generation

open Code Lifecycle Connection

/-- Views that differ at most in a password whose encrypted form both hold, and not in whether
there is one. -/
structure SameButPassword (v w : View) : Prop where
  agrees : v.Agrees {"password"}ᶜ w
  encrypted : v.stage.encrypted = w.stage.encrypted
  hidden : v.isEncrypted "password" = true
  blank : v.isBlank "password" = w.isBlank "password"

namespace SameButPassword

variable {v w : View} (same : SameButPassword v w)

include same

theorem on {keys : Set String} (others : "password" ∉ keys) : v.Agrees keys w :=
  same.agrees.mono fun _ member password => others (password ▸ member)

theorem mode_eq : Mode.select v = Mode.select w := Mode.select_agrees (same.on (by simp))

theorem code_eq (names : Names) (state : State) :
    Request.code ⟨v, names, Strategy.select v names⟩ state =
      Request.code ⟨w, names, Strategy.select w names⟩ state := by
  have kind : StrategyKind.select v = StrategyKind.select w :=
    StrategyKind.select_agrees (same.on (by simp))
  have notRead : "password" ∉ state.reads (Mode.select w) := by
    cases state <;> cases Mode.select w <;> simp [State.reads]
  rw [Strategy.select, Strategy.select, kind]
  exact Request.code_agrees same.mode_eq (same.on notRead) fun _ =>
    Credentials.statements_agrees (same.on (by simp)) same.blank same.encrypted same.hidden

theorem effectCode_eq (names : Names) (e : Effect) :
    effectCode v names e = effectCode w names e :=
  effectCode_resembles (same.on (by simp)).resembles names e

theorem fragment_eq (kind : StageKind) : fragment kind v = fragment kind w := by
  have cid := same.agrees.cid
  have code : stageCode kind v = stageCode kind w := by
    cases kind with
    | connection =>
      have steps := same.code_eq ⟨w.cid⟩
      have route : (request v).mode.route = (request w).mode.route := congrArg _ same.mode_eq
      rw [stageCode, stageCode, route, request, request, cid, funext steps]
    | commit => simp only [stageCode, cid, same.effectCode_eq]
    | rollback => simp only [stageCode, cid, same.effectCode_eq]
    | close => simp only [stageCode, cid, same.effectCode_eq]
  rw [fragment, fragment, cid, same.agrees.component, code]

theorem generationKeys_eq (kind : StageKind) :
    generationKeys kind v = generationKeys kind w :=
  generationKeys_resembles (same.on (by simp)).resembles kind

/-- Where both passwords can be written out, whatever else cannot is the same. -/
theorem excess?_eq (old : v.excess? ["password"] = none) (new : w.excess? ["password"] = none)
    (kind : StageKind) : excess? kind v = excess? kind w := by
  rw [excess?, excess?, same.generationKeys_eq]
  refine Value.findSome?_congr fun key _ => ?_
  by_cases password : key = "password"
  · subst password
    rw [View.excess?_cons, Option.or_eq_none_iff] at old new
    rw [old.1, new.1]
  · rw [same.agrees.param key password]

end SameButPassword

/-- A parameter that can be written out, and does not come out blank. -/
def IsGiven (view : View) (key : String) : Prop :=
  view.excess? [key] = none ∧ view.isBlank key = false

/-- Stages are generated alike if each of them is. -/
theorem generateStages_congr {table : Table} {settings : Settings} {stages others : List Stage}
    (alike : List.Forall₂ (fun a b =>
      (generateStage table settings a).1 = (generateStage table settings b).1) stages others) :
    (generateStages table settings stages).1 = (generateStages table settings others).1 := by
  induction alike with
  | nil => rfl
  | cons first _ ih => rw [generateStages_cons, generateStages_cons, first, ih]

/-- Where a stage holds an encrypted password, putting another password in the place of its own
does not change the program of the job, as long as both are given. -/
theorem encrypted_password_hidden (table : Table) (job : Job) {i : Nat} {stage : Stage}
    (value : Value) (place : job.stages[i]? = some stage)
    (encrypted : stage.encrypted.contains (.text "password") = true)
    (old : IsGiven ⟨stage, job.settings⟩ "password")
    (new : IsGiven ⟨stage.withParam "password" value, job.settings⟩ "password") :
    (generate table (job.withStage i (stage.withParam "password" value))).1 =
      (generate table job).1 := by
  let changed := stage.withParam "password" value
  have same : SameButPassword ⟨stage, job.settings⟩ ⟨changed, job.settings⟩ :=
    ⟨stage.withParam_agrees job.settings "password" value, rfl, encrypted,
      old.2.trans new.2.symm⟩
  have here : (generateStage table.orStandard job.settings stage).1 =
      (generateStage table.orStandard job.settings changed).1 := by
    cases known : table.orStandard.get? stage.kind with
    | none =>
      have unknown : table.orStandard.get? changed.kind = none := known
      simp only [generateStage, known, unknown]
      rfl
    | some kind =>
      have also : table.orStandard.get? changed.kind = some kind := known
      rw [generateStage_eq known, generateStage_eq also, generateView_eq, generateView_eq,
        same.excess?_eq old.1 new.1, same.fragment_eq]
  have stages : (generateStages table.orStandard job.settings job.stages).1 =
      (generateStages table.orStandard job.settings (job.stages.set i changed)).1 := by
    refine generateStages_congr (forall₂_set (fun _ => ?_) place ?_)
    · rfl
    · exact here
  have program : (generateProgram table (job.withStage i changed)).1 =
      (generateProgram table job).1 := by
    rw [generateProgram_eq, generateProgram_eq, stages]
    rfl
  change (generateProgram table (job.withStage i changed)).1.map _ = _
  rw [program]
  rfl

/-- A stage that shares a connection. It holds a password and an encrypted form of it. -/
def guardedStage (password : String) : Stage where
  cid := "c"
  params := StageKind.connection.defaults.update
    [(.text "password", .text password), (.text "use_shared_connection", .bool true)]
  encrypted := [(.text "password", "\"enc:1\"")]

def guardedJob (password : String) : Job where
  name := "j"
  stages := [guardedStage password]
  settings := { logEnabled := true }

/-- Two passwords with one program. -/
theorem guarded_password_hidden :
    IsGiven ⟨guardedStage "\"old\"", { logEnabled := true }⟩ "password" ∧
      IsGiven ⟨guardedStage "\"new\"", { logEnabled := true }⟩ "password" ∧
      (generate .standard (guardedJob "\"new\"")).1 =
        (generate .standard (guardedJob "\"old\"")).1 := by
  have old : IsGiven ⟨guardedStage "\"old\"", { logEnabled := true }⟩ "password" :=
    ⟨by decide +kernel, by decide +kernel⟩
  have new : IsGiven ⟨guardedStage "\"new\"", { logEnabled := true }⟩ "password" :=
    ⟨by decide +kernel, by decide +kernel⟩
  refine ⟨old, new, ?_⟩
  exact @encrypted_password_hidden .standard (guardedJob "\"old\"") 0 (guardedStage "\"old\"")
    (.text "\"new\"") rfl (by decide) old new

end Generation

end Stagewright
