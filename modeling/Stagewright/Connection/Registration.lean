import Stagewright.Code.Statement

/-!
Publishing a connection for the stages after it, and finding it there.
-/

namespace Stagewright.Connection

open Code

/-- The connection and its address are published. The user and the password are available to the
stage, but of them only a comment is left. -/
def registration (names : Names) : List Statement :=
  [.publish (Role.conn.key names.cid) names.conn,
    .publish (Role.url.key names.cid) names.url,
    .withhold (Role.user.key names.cid) names.dbUser,
    .withhold (Role.pass.key names.cid) names.dbPwd]

/-- Binds the connection that stage `owner` has published. -/
def lookup (names : Names) (owner : String) : Statement :=
  .bind names.conn (.published (Role.conn.key owner))

end Stagewright.Connection
