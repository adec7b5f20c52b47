import Stagewright.Code.Program
import Stagewright.Value.Dict

/-!
Any number of plans that are written at the same time and hand over their code to one program.
Work in a workshop is a list of steps; a block holds steps of its own and is left when they are
done or when an error breaks them off.
-/

namespace Stagewright.Code

structure Workshop where
  plans : Dict String Plan := []
  program : Program := []
  records : List Log.Record := []

/-- Why a step fails: a plan refuses code, nobody has started the plan, or whoever looks at the
workshop does not find what they are looking for. -/
inductive StepFault where
  | emission (e : EmissionError)
  | unknownPlan (id : String)
  | notFound

/-- Steps of work; `α` is what looking at the workshop shows. -/
inductive Step (α : Type) where
  | start (id cid component : String)
  | emit (id : String) (statements : List Statement)
  | flush (id : String)
  /-- Steps inside a block of a plan. An error in them is an answer of its own, unless the block
  lets it out: then the block fails with it. -/
  | block (id : String) (header : Statement) (propagates : Bool) (body : List (Step α))
  | add (fragment : Fragment)
  | look (see : Workshop → Option α)

/-- What a step answers: the number of lines in the plan it wrote to, the number of fragments
handed over, what was seen, or the answers of the steps in a block. -/
inductive Answer (α : Type) where
  | started (plan : Plan)
  | lineCount (n : Nat)
  | fragmentCount (n : Nat)
  | seen (a : α)
  | body (answers : List (Answer α))
  | failed (fault : StepFault)

namespace Workshop

/-- The plan of the given name. -/
def plan (w : Workshop) (id : String) : Except StepFault Plan :=
  match w.plans.get? id with
  | some plan => .ok plan
  | none => .error (.unknownPlan id)

def setPlan (w : Workshop) (id : String) (plan : Plan) : Workshop :=
  { w with plans := w.plans.put id plan }

/-- Appends statements to a plan. -/
def emit (w : Workshop) (id : String) (statements : List Statement) :
    Except StepFault (Workshop × Plan) := do
  let plan ← w.plan id
  let plan ← (plan.emit (ofStatements statements)).mapError .emission
  return (w.setPlan id plan, plan)

/-- Closes a plan and adds its fragment to the program. -/
def flush (w : Workshop) (id : String) : Except StepFault Workshop := do
  let plan ← w.plan id
  let closed ← plan.flush.mapError .emission
  return { w.setPlan id closed with
    program := w.program ++ [closed.fragment]
    records := w.records ++ [closed.flushed] }

/-- Opens a block of a plan. -/
def openBlock (w : Workshop) (id : String) (header : Statement) : Except StepFault Workshop := do
  let plan ← w.plan id
  let plan ← (plan.openBlock header).mapError .emission
  return w.setPlan id plan

/-- Leaves a block of a plan. -/
def leaveBlock (w : Workshop) (id : String) : Workshop :=
  match w.plans.get? id with
  | some plan => w.setPlan id plan.leaveBlock
  | none => w

variable {α : Type}

mutual

/-- Does a step. -/
def step (w : Workshop) : Step α → Except StepFault (Answer α) × Workshop
  | .start id cid component =>
    let plan := Plan.start cid component
    (.ok (.started plan), w.setPlan id plan)
  | .emit id statements =>
    match w.emit id statements with
    | .ok (w, plan) => (.ok (.lineCount plan.code.length), w)
    | .error fault => (.error fault, w)
  | .flush id =>
    match w.flush id with
    | .ok w => (.ok (.fragmentCount w.program.length), w)
    | .error fault => (.error fault, w)
  | .block id header propagates body =>
    match w.openBlock id header with
    | .error fault => (.error fault, w)
    | .ok w =>
      let (answer, w) := w.steps propagates body
      (answer.map .body, w.leaveBlock id)
  | .add fragment =>
    let program := w.program ++ [fragment]
    (.ok (.fragmentCount program.length), { w with program })
  | .look see =>
    match see w with
    | some a => (.ok (.seen a), w)
    | none => (.error .notFound, w)

/-- Does steps one after the other. A step that fails answers with its fault, or breaks off the
rest if faults are let out. -/
def steps (w : Workshop) (propagates : Bool) :
    List (Step α) → Except StepFault (List (Answer α)) × Workshop
  | [] => (.ok [], w)
  | s :: rest =>
    match w.step s with
    | (.ok answer, w) =>
      let (answers, w) := w.steps propagates rest
      (answers.map (answer :: ·), w)
    | (.error fault, w) =>
      if propagates then (.error fault, w)
      else
        let (answers, w) := w.steps propagates rest
        (answers.map (.failed fault :: ·), w)

end

/-- The answers to steps in a workshop that starts empty. -/
def run (work : List (Step α)) : Except StepFault (List (Answer α)) × Workshop :=
  ({} : Workshop).steps false work

end Workshop

end Stagewright.Code
