import Stagewright.Text.Utf8
import Stagewright.Yaml.Token

/-!
The text of a document in bytes. It is read in pieces, and a piece is read when the first of its
characters is looked at; so what is wrong with a piece only counts once everything before it has
been found in order.
-/

namespace Stagewright.Yaml

/-- The characters that a document may hold. -/
def isDocumentChar (c : Char) : Bool :=
  let n := c.toNat
  n = 9 || n = 10 || n = 13 || (32 ≤ n && n ≤ 126) || n = 0x85 || (0xa0 ≤ n && n ≤ 0xd7ff) ||
    (0xe000 ≤ n && n ≤ 0xfffd) || 0x10000 ≤ n

/-- Lines as they are read: a return, alone or before a newline, ends a line as well. -/
def normalizedBreaks : List Char → List Char
  | '\r' :: '\n' :: rest => '\n' :: normalizedBreaks rest
  | '\r' :: rest => '\n' :: normalizedBreaks rest
  | c :: rest => c :: normalizedBreaks rest
  | [] => []

/-- Text up to a place where it breaks off. -/
structure Source where
  text : List Char
  /-- What is wrong where it breaks off. -/
  ending : Option Fault := none

namespace Source

/-- The number of characters in a piece. The first piece is twice as long. -/
def pieceLength : Nat := 4096

/-- The number of bytes that are turned into characters at once. -/
def chunkLength : Nat := 8192

/-- The first character of the piece that holds the character `n`. -/
def pieceStart (n : Nat) : Nat := if n < 2 * pieceLength then 0 else n - n % pieceLength

/-- Text without the pieces from the first one on that holds a character which is not allowed. -/
def checked (source : Source) : Source :=
  let good := (source.text.takeWhile isDocumentChar).length
  if good = source.text.length then source
  else ⟨source.text.take (pieceStart good), some .malformed⟩

/-- The bytes before those that `rest`, which are the last of `data`, consist of. -/
def before (data rest : List UInt8) : List UInt8 := data.take (data.length - rest.length)

/-- The text in bytes. Where they are none, the chunk with the first bad byte is not part of it, and
neither is the piece that asks for that chunk. -/
def ofBytes (data : List UInt8) : Source :=
  let (cs, rest) := Text.decodePrefix data
  match rest with
  | [] => checked ⟨normalizedBreaks cs, none⟩
  | _ =>
    let good := before data rest
    let whole := if Text.breaksOff rest then good
      else good.take (good.length - good.length % chunkLength)
    let cs := normalizedBreaks (Text.decodePrefix whole).1
    checked ⟨cs.take (pieceStart cs.length), some .undecodable⟩

end Source

end Stagewright.Yaml
