import Stagewright.Code.Line
import Stagewright.Demand

/-!
The user and the password of a connection. The password variable is bound once, in one of three
ways.
-/

namespace Stagewright.Connection

open Code

inductive PasswordMode where
  | absent
  | plain
  | encrypted
deriving DecidableEq, Repr

def PasswordMode.name : PasswordMode → String
  | .absent => "absent"
  | .plain => "plain"
  | .encrypted => "encrypted"

structure Credentials where
  view : View
  names : Names
  /-- The parameter that holds the password. -/
  field : String := "password"

namespace Credentials

variable (credentials : Credentials)

def mode : PasswordMode :=
  if credentials.view.isBlank credentials.field then .absent
  else if credentials.view.isEncrypted credentials.field then .encrypted
  else .plain

def userBinding : Statement :=
  .bind credentials.names.dbUser <| .operand <|
    if credentials.view.isBlank "user" then .absent else .given (credentials.view.get "user")

/-- A given password is bound to a variable of its own first. -/
def passwordBindings : List Statement :=
  let names := credentials.names
  let via (e : Expr) : List Statement :=
    [.bind names.decryptedPassword e, .bind names.dbPwd (.read names.decryptedPassword)]
  match credentials.mode with
  | .absent => [.bind names.dbPwd (.operand .absent)]
  | .encrypted => via (.decrypt (credentials.view.encryptedText credentials.field))
  | .plain => via (.operand (.given (credentials.view.get credentials.field)))

def statements : List Statement := credentials.userBinding :: credentials.passwordBindings

/-- What the statements look at. -/
def keys : List String := ["user", credentials.field]

/-- The part in which the user and the password are bound. -/
def part : Part where
  view := credentials.view
  keys := credentials.keys
  code := ofStatements credentials.statements

end Credentials

end Stagewright.Connection
