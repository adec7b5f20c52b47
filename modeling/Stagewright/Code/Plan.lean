import Stagewright.Code.Line
import Stagewright.Log.Record
import Stagewright.Value.Explained

/-!
The plan of a stage: its code as far as it has been written. A plan only ever grows, and once it
has been flushed it takes nothing more.
-/

namespace Stagewright

/-- Why code cannot be written. -/
inductive EmissionError where
  /-- The plan of a stage has been flushed. -/
  | planClosed (cid : String)
  /-- A stage asks for a step that does not come next. -/
  | offRoute (cid mode current requested : String)
  /-- No generator is registered for the kind of a stage. -/
  | unknownKind (cid kind : String) (known : List String)
deriving DecidableEq, Repr

def EmissionError.explained : EmissionError → Explained
  | .planClosed cid => ⟨"Emission plan has already been flushed", [("stage", .text cid)]⟩
  | .offRoute cid mode current requested =>
    ⟨"Illegal planner transition " ++ current ++ " -> " ++ requested,
      [("stage", .text cid), ("mode", .text mode)]⟩
  | .unknownKind cid kind known =>
    ⟨"Unknown stage kind '" ++ kind ++ "'",
      [("stage", .text cid), ("known_kinds", .list (known.map Value.text))]⟩

namespace Code

/-- The code that a stage hands over when it is done. -/
structure Fragment where
  cid : String
  component : String
  code : Code
deriving DecidableEq, Repr

structure Plan where
  cid : String
  component : String
  code : Code := []
  /-- The number of blocks that are open. -/
  depth : Nat := 0
  closed : Bool := false
deriving DecidableEq, Repr

namespace Plan

/-- The empty plan of a stage. Without a family the stage goes by its cid. -/
def start (cid component : String) : Plan where
  cid := cid
  component := if component.isEmpty then cid else component

/-- Appends code inside the blocks that are open. -/
def emit (plan : Plan) (code : Code) : Except EmissionError Plan :=
  if plan.closed then .error (.planClosed plan.cid)
  else .ok { plan with code := plan.code ++ code.deeper plan.depth }

/-- Appends code if there is any. Only code asks for an open plan. -/
def perform (plan : Plan) (code : Code) : Except EmissionError Plan :=
  if code.isEmpty then .ok plan else plan.emit code

/-- Appends a header and opens its block. -/
def openBlock (plan : Plan) (header : Statement) : Except EmissionError Plan := do
  let plan ← plan.emit (ofStatements [header])
  return { plan with depth := plan.depth + 1 }

def leaveBlock (plan : Plan) : Plan := { plan with depth := plan.depth - 1 }

/-- What the plan hands over. -/
def fragment (plan : Plan) : Fragment := ⟨plan.cid, plan.component, plan.code⟩

/-- The record of handing over. -/
def flushed (plan : Plan) : Log.Record :=
  Log.debug .sink
    ("Flushed " ++ toString plan.code.length ++ " statements for stage " ++ plan.cid)

/-- Closes the plan, whose fragment is then final. -/
def flush (plan : Plan) : Except EmissionError Plan :=
  if plan.closed then .error (.planClosed plan.cid) else .ok { plan with closed := true }

end Plan

end Code

end Stagewright
