import Stagewright.Value.Spelling

/-!
Messages with the circumstances that explain them.
-/

namespace Stagewright

structure Explained where
  message : String
  context : List (String × Value) := []

namespace Explained

/-- A circumstance on one line: the items of a list are joined, and what counts as not given is
left out. -/
def detail? (entry : String × Value) : Option String :=
  match entry.2 with
  | .list (v :: vs) => some (entry.1 ++ ": " ++ ", ".intercalate ((v :: vs).map Value.spell))
  | v => if v.isVoid then none else some (entry.1 ++ ": " ++ v.spell)

/-- The message, followed by its circumstances if there are any to show. -/
def text (e : Explained) : String :=
  match e.context.filterMap detail? with
  | [] => e.message
  | details => e.message ++ "\n\nContext:\n  - " ++ "\n  - ".intercalate details

end Explained

end Stagewright
