import Stagewright.Text.CapitalTable
import Stagewright.Text.CaseTable
import Stagewright.Text.Runs

/-!
Small letters and capitals. On the way to small letters two characters are not mapped one by one:
the dotted capital I becomes two characters, and a capital sigma at the end of a word takes its
final form. Some small letters have capitals of several characters.
-/

namespace Stagewright.Text

/-- The form in the other case that a run gives for code point `n`. -/
def CaseRun.other? (run : CaseRun) (n : Nat) : Option Nat :=
  if run.first ≤ n ∧ (n - run.first) % run.step = 0 ∧ (n - run.first) / run.step < run.count then
    some (n + run.shift).toNat
  else none

/-- The small letter of a character that is mapped by itself. -/
def smallChar (c : Char) : Char :=
  if c.toNat < 128 then c.toLower
  else (caseRuns.findSome? (·.other? c.toNat)).elim c Char.ofNat

/-- Whether the nearest character that is not skipped has case. -/
def casedAhead (cs : List Char) : Bool :=
  match cs.dropWhile (memRuns caseIgnorableRuns) with
  | [] => false
  | c :: _ => memRuns casedRuns c

/-- Small letters of `rest`, where `before` holds what precedes it, nearest first. A sigma is final
when a cased letter precedes it and none follows. -/
def lowerFrom (before : List Char) : List Char → List Char
  | [] => []
  | c :: rest =>
    let small :=
      if c = 'Σ' then [if casedAhead before && !casedAhead rest then 'ς' else 'σ']
      else if c = 'İ' then ['i', '\u0307']
      else [smallChar c]
    small ++ lowerFrom (c :: before) rest

/-- Text in small letters. -/
def lower (s : String) : String := String.ofList (lowerFrom [] s.toList)

/-- The capital form of a character. -/
def capitals (c : Char) : List Char :=
  if c.toNat < 128 then [c.toUpper]
  else
    match longCapitals.find? (·.1 = c.toNat) with
    | some (_, form) => form.map Char.ofNat
    | none => [(capitalRuns.findSome? (·.other? c.toNat)).elim c Char.ofNat]

/-- Text in capitals. -/
def upper (s : String) : String := String.ofList (s.toList.flatMap capitals)

end Stagewright.Text
