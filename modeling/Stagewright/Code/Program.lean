import Stagewright.Code.Plan

/-!
The generated program: the fragments of its stages in the order in which they were handed over,
and the text around them.
-/

namespace Stagewright.Code

/-- The text of a fragment at a depth, a comment with its stage in front. -/
def Fragment.text (depth : Nat) (fragment : Fragment) : String :=
  "\n".intercalate
    ((indent depth ++ "# " ++ fragment.cid ++ " (" ++ fragment.component ++ ")") ::
      fragment.code.texts.map (indented depth))

abbrev Program := List Fragment

namespace Program

/-- The lines of all fragments. -/
def lines (program : Program) : List String := program.flatMap (·.code.texts)

/-- The fragments at a depth, an empty line between one and the next. -/
def text (depth : Nat) (program : Program) : String :=
  "\n\n".intercalate (program.map (Fragment.text depth))

/-- The lines in front of the fragments. -/
def preamble (name : String) : List String :=
  ["\"\"\"Generated by connforge for job '" ++ name ++ "'.\"\"\"",
    "import logging",
    "",
    "from connforge.runtime import DataSourceNotFoundError, JobContext, connection_metadata",
    "",
    "log = logging.getLogger(\"connforge.job." ++ name ++ "\")",
    "",
    "",
    "def run(context: JobContext) -> None:",
    "    global_map = context.global_map"]

/-- The body of the program's one function. -/
def body (program : Program) : String :=
  if program.isEmpty then indent 1 ++ "pass" else program.text 1

/-- The module that runs the job of the given name. -/
def module (program : Program) (name : String) : String :=
  "\n".intercalate (preamble name ++ [program.body, ""])

end Program

end Stagewright.Code
