import Stagewright.Proofs.Validation.Slots
import Stagewright.Proofs.Value.Dict

/-!
What is bound for the user and the password of a connection. Every binding binds an expression,
also where the configuration gives none. What is handed over to be decrypted is the encrypted form
of the password as it stands; only the password itself is asked whether it is blank.
-/

namespace Stagewright

namespace Code

open Text

theorem Expr.filled_absent : (Expr.operand .absent).Filled := by
  have none : isBlankText "None" = false := by decide
  exact none

theorem Expr.filled_read (x : Local) : (Expr.read x).Filled := by
  have joint : isBlankText "_" = false := by decide
  have text : (Expr.read x).text = x.slot.stem ++ "_" ++ x.cid := rfl
  rw [Expr.Filled, text, isBlankText_append, isBlankText_append, joint, Bool.and_false]
  rfl

/-- The words around what is decrypted are there in any case. -/
theorem Expr.filled_decrypt (source : String) : (Expr.decrypt source).Filled := by
  have words : isBlankText "context.decrypt_password(" = false := by decide
  have text : (Expr.decrypt source).text = "context.decrypt_password(" ++ source ++ ")" := rfl
  rw [Expr.Filled, text, isBlankText_append, isBlankText_append, words]
  rfl

end Code

namespace Connection.Credentials

open Code

variable (credentials : Credentials)

/-- The encrypted form of the password, if the stage has one. -/
def encrypted? : Option String :=
  credentials.view.stage.encrypted.get? (.text credentials.field)

/-- A password is taken to be encrypted if it is not blank and has an encrypted form, whatever that
form is. -/
theorem mode_encrypted_iff :
    credentials.mode = .encrypted ↔
      credentials.view.isBlank credentials.field = false ∧
        credentials.encrypted?.isSome = true := by
  have stored : credentials.view.isEncrypted credentials.field =
      credentials.encrypted?.isSome := Dict.contains_eq_isSome _ _
  rw [mode, stored]
  cases credentials.view.isBlank credentials.field with
  | true => simp
  | false => cases credentials.encrypted?.isSome <;> simp

theorem not_blank_of_plain (plain : credentials.mode = .plain) :
    credentials.view.isBlank credentials.field = false := by
  rw [mode] at plain
  cases blank : credentials.view.isBlank credentials.field with
  | false => rfl
  | true => simp [blank] at plain

/-- The bindings of a credential bind expressions to its own variables. -/
def IsBinding (s : Statement) : Prop :=
  ∃ x e, s = .bind x e ∧ e.Filled ∧
    x ∈ [credentials.names.dbUser, credentials.names.decryptedPassword, credentials.names.dbPwd]

theorem isBinding_user : credentials.IsBinding credentials.userBinding := by
  refine ⟨_, _, rfl, ?_, List.mem_cons_self⟩
  cases blank : credentials.view.isBlank "user" with
  | true => exact Expr.filled_absent
  | false => exact blank

theorem isBinding_password :
    ∀ s ∈ credentials.passwordBindings, credentials.IsBinding s := by
  have handed {e : Expr} (filled : e.Filled) : ∀ s ∈
      [Statement.bind credentials.names.decryptedPassword e,
        .bind credentials.names.dbPwd (.read credentials.names.decryptedPassword)],
      credentials.IsBinding s := by
    refine List.forall_mem_cons.mpr ⟨⟨_, _, rfl, filled, by simp⟩, ?_⟩
    exact List.forall_mem_singleton.mpr ⟨_, _, rfl, Expr.filled_read _, by simp⟩
  rw [passwordBindings]
  cases mode : credentials.mode with
  | absent => exact List.forall_mem_singleton.mpr ⟨_, _, rfl, Expr.filled_absent, by simp⟩
  | encrypted => exact handed (Expr.filled_decrypt _)
  | plain => exact handed (credentials.not_blank_of_plain mode)

/-- What is decrypted is the encrypted form, and it is decrypted where there is one. -/
theorem decrypts_iff {x : Local} {source : String} :
    Statement.bind x (.decrypt source) ∈ credentials.statements ↔
      x = credentials.names.decryptedPassword ∧ credentials.mode = .encrypted ∧
        credentials.encrypted? = some source := by
  have user : Statement.bind x (.decrypt source) ≠ credentials.userBinding := by
    simp [userBinding]
  rw [statements, List.mem_cons, or_iff_right user, passwordBindings]
  cases mode : credentials.mode with
  | absent => simp
  | plain => simp
  | encrypted =>
    obtain ⟨-, stored⟩ := credentials.mode_encrypted_iff.mp mode
    obtain ⟨form, held⟩ := Option.isSome_iff_exists.mp stored
    have handed : credentials.view.encryptedText credentials.field = form := by
      rw [View.encryptedText, show credentials.view.stage.encrypted.get? _ = some form from held]
      rfl
    simp [handed, held, eq_comm]

theorem isBinding : ∀ s ∈ credentials.statements, credentials.IsBinding s :=
  List.forall_mem_cons.mpr ⟨credentials.isBinding_user, credentials.isBinding_password⟩

/-- What is handed over to be decrypted is filled exactly if the encrypted form is. -/
theorem decrypts_filled_iff :
    (∀ x source, Statement.bind x (.decrypt source) ∈ credentials.statements →
        Text.isBlankText source = false) ↔
      (credentials.mode = .encrypted → ∀ source, credentials.encrypted? = some source →
        Text.isBlankText source = false) := by
  constructor
  · intro filled mode source held
    exact filled _ source (credentials.decrypts_iff.mpr ⟨rfl, mode, held⟩)
  · intro filled x source decrypted
    obtain ⟨-, mode, held⟩ := credentials.decrypts_iff.mp decrypted
    exact filled mode source held

/-- A user or a password that there is too much in is not bound. Whatever else the configuration
holds, the statements are written, and bind the user and the password to expressions that are not
blank. A password is decrypted exactly if it is not blank and has an encrypted form. That form is
what is handed over, as it stands, so what is handed over is blank exactly where the form is. -/
theorem bindings_filled (plan : Plan) :
    match credentials.part.excess? with
    | some e => (plan.write [credentials.part]).1 = .error (.excess e)
    | none =>
      (plan.closed = false → plan.write [credentials.part] =
        (.ok (), { plan with
          code := plan.code ++ Code.deeper plan.depth (ofStatements credentials.statements) })) ∧
      (∀ s ∈ credentials.statements, credentials.IsBinding s) ∧
      (credentials.mode = .encrypted ↔
        credentials.view.isBlank credentials.field = false ∧
          credentials.encrypted?.isSome = true) ∧
      (∀ x source, Statement.bind x (.decrypt source) ∈ credentials.statements ↔
        x = credentials.names.decryptedPassword ∧ credentials.mode = .encrypted ∧
          credentials.encrypted? = some source) ∧
      ((∀ x source, Statement.bind x (.decrypt source) ∈ credentials.statements →
          Text.isBlankText source = false) ↔
        (credentials.mode = .encrypted → ∀ source, credentials.encrypted? = some source →
          Text.isBlankText source = false)) := by
  cases large : credentials.part.excess? with
  | some e => simp [Plan.write, large]
  | none =>
    have fits : excessOf? [credentials.part] = none := by simp [excessOf?, large]
    refine ⟨fun opened => ?_, credentials.isBinding, credentials.mode_encrypted_iff,
      fun x source => credentials.decrypts_iff, credentials.decrypts_filled_iff⟩
    rw [Plan.write_all opened fits, List.flatMap_singleton]
    rfl

/-- A stage with a password whose encrypted form is a space. -/
def blankForm : Credentials where
  view := { stage := {
    cid := "c"
    params := [(.text "password", .text "p")]
    encrypted := [(.text "password", " ")] } }
  names := ⟨"c"⟩

/-- The space is what it hands over to be decrypted. -/
theorem blank_form_decrypted :
    blankForm.mode = .encrypted ∧
      Statement.bind blankForm.names.decryptedPassword (.decrypt " ") ∈ blankForm.statements ∧
      Text.isBlankText " " = true := by
  have mode : blankForm.mode = .encrypted := by decide
  have held : blankForm.encrypted? = some " " := by decide
  exact ⟨mode, blankForm.decrypts_iff.mpr ⟨rfl, mode, held⟩, by decide⟩

end Connection.Credentials

end Stagewright
