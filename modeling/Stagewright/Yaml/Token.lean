import Stagewright.Text.Quoted
import Stagewright.Value.Excess

/-!
Tokens of a document, and what can be wrong with one.
-/

namespace Stagewright.Yaml

/-- Why a document cannot be read. Besides text that is no YAML at all, these are scalars that have
the form of their type, or name it, and yet denote no value of it. -/
inductive Fault where
  | malformed
  /-- Text in quotes that are not closed. -/
  | unfinished
  | badInteger (base : Nat) (text : String)
  | badFloat (text : String)
  | emptyNumber
  | badTruth
  | badMoment
  /-- A collection where the text of a moment is looked at. -/
  | momentOfCollection
  | calendar (fault : CalendarFault)
  /-- A character is asked for by a number past the last one, which may be too large to be a
  number of a character at all. -/
  | badCharacter (huge : Bool)
  /-- An integer of the decimal system with too many digits. -/
  | longInteger (digits : Nat)
  /-- A number in units of sixty with so many parts that the first unit is past all numbers. -/
  | hugeUnit
  /-- Nodes inside one another without an end, or with too many before it. -/
  | tooDeep
  /-- Bytes that are no text. -/
  | undecodable
deriving DecidableEq, Repr

/-- What a fault says, for those that say something. -/
def Fault.message? : Fault → Option String
  | .badInteger base text =>
    some ("invalid literal for int() with base " ++ toString base ++ ": " ++
      String.ofList ((Text.literal text).toList.take 200))
  | .badFloat text => some ("could not convert string to float: " ++ Text.literal text)
  | .calendar fault => some fault.message
  | .longInteger digits =>
    some (Excess.digitsMessage (": value has " ++ toString digits ++ " digits"))
  | .badCharacter false => some "chr() arg not in range(0x110000)"
  | _ => none

/-- A tag as it is written: a handle, which stands for the beginning of the tag, and the rest. -/
structure TagText where
  handle : Option String
  suffix : String
deriving DecidableEq, Repr

/-- Instructions in front of a document. -/
inductive Directive where
  | version (major minor : Nat)
  | tag (handle beginning : String)
  | other
deriving DecidableEq, Repr

inductive Token where
  | directive (d : Directive)
  | documentStart
  | documentEnd
  | streamEnd
  | blockSequenceStart
  | blockMappingStart
  | blockEnd
  | flowSequenceStart
  | flowSequenceEnd
  | flowMappingStart
  | flowMappingEnd
  | blockEntry
  | flowEntry
  | key
  | value
  | reference (name : String)
  | anchor (name : String)
  | tag (tag : TagText)
  /-- A scalar, which is plain unless it is quoted or stands in a block of its own. -/
  | scalar (text : String) (plain : Bool)
deriving DecidableEq, Repr

end Stagewright.Yaml
