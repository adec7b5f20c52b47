import Stagewright.Text.Lines
import Stagewright.Yaml.Moment

/-!
Tags: what kind of value a node is. A node without a tag is a collection, text in quotes, or
whatever its plain text has the form of.
-/

namespace Stagewright.Yaml

inductive Tag where
  | null
  | bool
  | int
  | float
  | binary
  | moment
  | omap
  | pairs
  | set
  | str
  | seq
  | map
  | merge
  | value
  | other (uri : String)
deriving DecidableEq, Repr

namespace Tag

/-- What the tags of the language begin with. -/
def common : String := "tag:yaml.org,2002:"

def known : List (String × Tag) :=
  [("null", .null), ("bool", .bool), ("int", .int), ("float", .float), ("binary", .binary),
    ("timestamp", .moment), ("omap", .omap), ("pairs", .pairs), ("set", .set), ("str", .str),
    ("seq", .seq), ("map", .map), ("merge", .merge), ("value", .value)]

def ofUri (uri : String) : Tag :=
  ((known.find? fun e => common ++ e.1 = uri).map (·.2)).getD (.other uri)

def isTruthText (s : String) : Bool :=
  ["yes", "Yes", "YES", "no", "No", "NO", "true", "True", "TRUE", "false", "False", "FALSE", "on",
    "On", "ON", "off", "Off", "OFF"].contains s

def isNullText (s : String) : Bool := ["~", "null", "Null", "NULL", ""].contains s

/-- Digits of a base, with low lines among them. -/
def areDigits (isDigit : Char → Bool) (cs : List Char) : Bool :=
  cs.all fun c => isDigit c || c = '_'

/-- Characters without a sign in front. -/
def unsigned : List Char → List Char
  | '-' :: rest | '+' :: rest => rest
  | cs => cs

/-- A number below sixty, as it follows a colon. -/
def isSixtieth : List Char → Bool
  | [a] => a.isDigit
  | [a, b] => '0' ≤ a && a ≤ '5' && b.isDigit
  | _ => false

/-- Whether a list of digits begins with a digit, one that is not zero if `nonzero`. -/
def beginsNumber (nonzero : Bool) : List Char → Bool
  | c :: rest => c.isDigit && !(nonzero && c = '0') && areDigits Char.isDigit rest
  | [] => false

def isBinaryDigit (c : Char) : Bool := c = '0' || c = '1'

def isOctalDigit (c : Char) : Bool := '0' ≤ c && c ≤ '7'

def isHexDigit (c : Char) : Bool :=
  c.isDigit || ('a' ≤ c && c ≤ 'f') || ('A' ≤ c && c ≤ 'F')

/-- Integers: of base two, eight, ten and sixteen, and in units of sixty between colons. -/
def isIntegerText (cs : List Char) : Bool :=
  match unsigned cs with
  | ['0'] => true
  | '0' :: 'b' :: rest => !rest.isEmpty && areDigits isBinaryDigit rest
  | '0' :: 'x' :: rest => !rest.isEmpty && areDigits isHexDigit rest
  | '0' :: rest => !rest.isEmpty && areDigits isOctalDigit rest
  | cs =>
    match Text.splitChars ':' cs with
    | whole :: sixtieths => beginsNumber true whole && sixtieths.all isSixtieth
    | [] => false

/-- An exponent with its sign, or nothing. -/
def isExponent : List Char → Bool
  | [] => true
  | e :: sign :: digits =>
    (e = 'e' || e = 'E') && (sign = '-' || sign = '+') && !digits.isEmpty && digits.all Char.isDigit
  | _ => false

/-- Digits with low lines among them, and an exponent. -/
def isFraction (cs : List Char) : Bool :=
  isExponent (cs.dropWhile fun c => c.isDigit || c = '_')

/-- Numbers with a point. Those in units of sixty have no exponent, and those that begin with the
point have no sign. -/
def isFloatText (cs : List Char) : Bool :=
  let isSpecial (words : List String) (cs : List Char) : Bool := words.contains (String.ofList cs)
  match cs with
  | '.' :: digit :: rest =>
    (digit.isDigit && isFraction rest) ||
      isSpecial [".inf", ".Inf", ".INF", ".nan", ".NaN", ".NAN"] cs
  | _ =>
    let whole := (unsigned cs).takeWhile (· ≠ '.')
    match (unsigned cs).dropWhile (· ≠ '.') with
    | _ :: fraction =>
      match Text.splitChars ':' whole with
      | [whole] =>
        (beginsNumber false whole && isFraction fraction) ||
          isSpecial [".inf", ".Inf", ".INF"] (unsigned cs)
      | whole :: sixtieths =>
        beginsNumber false whole && sixtieths.all isSixtieth && areDigits Char.isDigit fraction
      | [] => false
    | [] => false

/-- Whether a moment is written out in full. A date on its own has two digits for month and day. -/
def isMomentText (cs : List Char) : Bool :=
  match moment? cs with
  | some m => m.clock.isSome || cs.length = 10
  | none => false

/-- The text without a newline at its end, which no form looks at. -/
def withoutNewline (cs : List Char) : List Char :=
  if cs.getLast? = some '\n' && cs.length > 1 then cs.dropLast else cs

/-- The tag of a plain scalar. -/
def ofPlain (text : String) : Tag :=
  let cs := withoutNewline text.toList
  let s := String.ofList cs
  if isTruthText s then .bool
  else if isFloatText cs then .float
  else if isIntegerText cs then .int
  else if s = "<<" then .merge
  else if isNullText s then .null
  else if isMomentText cs then .moment
  else if s = "=" then .value
  else if s = "!" || s = "&" || s = "*" then .other (common ++ "yaml")
  else .str

end Tag

end Stagewright.Yaml
