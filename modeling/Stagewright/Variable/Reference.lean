import Stagewright.Text.Blank
import Stagewright.Text.Symbol

/-!
References to variables inside text. A reference is a dollar sign and an opening brace, a longest
run of characters other than a closing brace and a bar, and then either a closing brace or a bar, a
longest run of characters other than a closing brace, and the closing brace; neither run is empty.
References are looked for from the left, and the search goes on right after the end of each one.
-/

namespace Stagewright.Variable

/-- A reference as it stands in the text, nothing trimmed: the characters of the name, and those of
the default if a bar introduces one. -/
structure Form where
  name : List Char
  default : Option (List Char)
deriving DecidableEq, Repr

/-- The number of characters a reference takes up. -/
def Form.length (f : Form) : Nat :=
  match f.default with
  | none => f.name.length + 3
  | some d => f.name.length + d.length + 4

/-- A character of a name. -/
def isNameChar (c : Char) : Bool := c ≠ '}' && c ≠ '|'

/-- A character of a default. -/
def isDefaultChar (c : Char) : Bool := c ≠ '}'

/-- The reference that the characters begin with, if they begin with one. -/
def Form.read? : List Char → Option Form
  | '$' :: '{' :: rest =>
    let name := rest.takeWhile isNameChar
    if name.isEmpty then none
    else
      match rest.dropWhile isNameChar with
      | '}' :: _ => some ⟨name, none⟩
      | '|' :: rest =>
        let default := rest.takeWhile isDefaultChar
        if default.isEmpty || (rest.dropWhile isDefaultChar).isEmpty then none
        else some ⟨name, some default⟩
      | _ => none
  | _ => none

/-- A reference and where it stands: the positions of its first character and of the first one
after it. -/
structure Occurrence where
  start : Nat
  stop : Nat
  form : Form
deriving DecidableEq, Repr

/-- The references in the characters from position `at` on, the first `skip` of which belong to a
reference already found. -/
def occurrencesFrom (position skip : Nat) : List Char → List Occurrence
  | [] => []
  | c :: rest =>
    match skip with
    | skip + 1 => occurrencesFrom (position + 1) skip rest
    | 0 =>
      match Form.read? (c :: rest) with
      | some form =>
        ⟨position, position + form.length, form⟩ ::
          occurrencesFrom (position + 1) (form.length - 1) rest
      | none => occurrencesFrom (position + 1) 0 rest

/-- The references in a text, from left to right. -/
def occurrences (cs : List Char) : List Occurrence := occurrencesFrom 0 0 cs

/-- Text without one pair of equal quotes at its ends. The two ends may be one and the same
character. -/
def unquote (cs : List Char) : List Char :=
  if (cs.head? = some '"' ∧ cs.getLast? = some '"') ∨
      (cs.head? = some '\'' ∧ cs.getLast? = some '\'') then
    (cs.drop 1).dropLast
  else cs

/-- A reference with a name and a default ready for use. -/
structure Reference where
  name : String
  default : Option String
  /-- The reference as it is written. -/
  source : String
  start : Nat
  stop : Nat
deriving DecidableEq, Repr

/-- The reference at an occurrence in the given text, unless its name is blank. -/
def Occurrence.reference? (cs : List Char) (o : Occurrence) : Option Reference :=
  let name := Text.trimChars o.form.name
  if name.isEmpty then none
  else some {
    name := String.ofList name
    default := o.form.default.map fun d => String.ofList (unquote (Text.trimChars d))
    source := String.ofList ((cs.drop o.start).take (o.stop - o.start))
    start := o.start
    stop := o.stop }

/-- The symbols of the text in front of a reference, and of that up to its end. -/
def Reference.span (s : String) (r : Reference) : List Nat :=
  [r.start, r.stop].map fun position => Text.symbolCount (s.toList.take position)

/-- The references with a name in the given characters, from left to right. -/
def referencesIn (cs : List Char) : List Reference :=
  (occurrences cs).filterMap (·.reference? cs)

/-- The references with a name in a text. -/
def references (s : String) : List Reference := referencesIn s.toList

/-- Whether there are references with a name in a text. -/
def hasReferences (s : String) : Bool := !(references s).isEmpty

end Stagewright.Variable
