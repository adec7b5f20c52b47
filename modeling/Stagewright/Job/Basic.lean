import Stagewright.Job.Settings
import Stagewright.Job.Stage

namespace Stagewright

/-- Stages that make up one generated program, in the order they run. -/
structure Job where
  name : String
  stages : List Stage := []
  settings : Settings := {}
  /-- The file the job was read from. -/
  source : Option String := none

def Job.cids (job : Job) : List String := job.stages.map (·.cid)

end Stagewright
