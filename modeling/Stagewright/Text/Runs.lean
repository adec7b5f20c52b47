/-!
Sets of characters written as run lengths: so many code points outside the set, so many inside,
so many outside again, and so on.
-/

namespace Stagewright.Text

/-- Whether `n` lies in the set whose runs are given, the first of them being inside iff `inside`.
Past the last run lies the complement of that run. -/
def inRuns : List Nat → Nat → (inside : Bool) → Bool
  | [], _, inside => inside
  | run :: runs, n, inside => if n < run then inside else inRuns runs (n - run) (!inside)

/-- Membership of a character in a set that begins with a run outside. -/
def memRuns (runs : List Nat) (c : Char) : Bool := inRuns runs c.toNat false

end Stagewright.Text
