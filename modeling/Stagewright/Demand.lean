import Stagewright.Code.Plan
import Stagewright.Job.View

/-!
Writing code that depends on parameters. It is written part by part. A part fails where there is too
much in a parameter that it looks at, and what the parts before it have written stays written.
-/

namespace Stagewright

/-- Why the program of a job cannot be generated. -/
inductive GenerationError where
  /-- There is too much of something in a parameter. -/
  | excess (e : Excess)
  | emission (e : EmissionError)
deriving DecidableEq, Repr

namespace Code

/-- A part of what is written: it looks at parameters, and then writes code. -/
structure Part where
  view : View
  keys : List String := []
  code : Code := []

namespace Part

/-- What is too much in the parameters that the part looks at. -/
def excess? (part : Part) : Option Excess := part.view.excess? part.keys

/-- The part `depth` blocks further in. -/
def deeper (depth : Nat) (part : Part) : Part := { part with code := part.code.deeper depth }

end Part

/-- Writes parts, up to the first that cannot be written. -/
def Plan.write (plan : Plan) : List Part → Except GenerationError Unit × Plan
  | [] => (.ok (), plan)
  | part :: rest =>
    match part.excess? with
    | some e => (.error (.excess e), plan)
    | none =>
      match plan.perform part.code with
      | .error e => (.error (.emission e), plan)
      | .ok plan => plan.write rest

end Code

end Stagewright
