/-!
Text from bytes. A character has one form in bytes only: forms longer than needed, halves of
surrogate pairs and numbers past the last character are refused.
-/

namespace Stagewright.Text

/-- The lower six bits of a byte that continues a character. -/
def continuation? (b : UInt8) : Option Nat :=
  let n := b.toNat
  if 0x80 ≤ n ∧ n < 0xc0 then some (n - 0x80) else none

/-- The character with a number that takes at least `least`. -/
def charAbove? (least n : Nat) : Option Char :=
  if h : least ≤ n ∧ n.isValidChar then some (Char.ofNatAux n h.2) else none

/-- The number of bytes of a character that begins with the given one. -/
def utf8Length (lead : UInt8) : Nat :=
  let n := lead.toNat
  if n < 0x80 then 1
  else if 0xc0 ≤ n ∧ n < 0xe0 then 2
  else if 0xe0 ≤ n ∧ n < 0xf0 then 3
  else if 0xf0 ≤ n ∧ n < 0xf8 then 4
  else 0

/-- The character that bytes stand for, as many of them as the first one says. -/
def utf8Char? : List UInt8 → Option Char
  | [b] => if b.toNat < 0x80 then some (Char.ofNat b.toNat) else none
  | [b, b1] => do charAbove? 0x80 ((b.toNat - 0xc0) * 0x40 + (← continuation? b1))
  | [b, b1, b2] => do
    charAbove? 0x800
      (((b.toNat - 0xe0) * 0x40 + (← continuation? b1)) * 0x40 + (← continuation? b2))
  | [b, b1, b2, b3] => do
    charAbove? 0x10000
      ((((b.toNat - 0xf0) * 0x40 + (← continuation? b1)) * 0x40 + (← continuation? b2)) * 0x40 +
        (← continuation? b3))
  | _ => none

/-- The characters that bytes begin with, the first `skip` of which belong to a character that has
been read, and the bytes from the first on that belongs to none. -/
def decodeFrom (skip : Nat) : List UInt8 → List Char × List UInt8
  | [] => ([], [])
  | b :: rest =>
    match skip with
    | skip + 1 => decodeFrom skip rest
    | 0 =>
      let bytes := (b :: rest).take (utf8Length b)
      match if bytes.length = utf8Length b then utf8Char? bytes else none with
      | none => ([], b :: rest)
      | some c =>
        let (cs, bad) := decodeFrom (utf8Length b - 1) rest
        (c :: cs, bad)

/-- The characters that bytes begin with, and the bytes after them. -/
def decodePrefix (bytes : List UInt8) : List Char × List UInt8 := decodeFrom 0 bytes

/-- The characters that bytes stand for. -/
def decodeUtf8? (bytes : List UInt8) : Option (List Char) :=
  match decodePrefix bytes with
  | (cs, []) => some cs
  | _ => none

/-- Whether bytes are the beginning of a character and nothing more. -/
def breaksOff : List UInt8 → Bool
  | [] => false
  | b :: rest => rest.length + 1 < utf8Length b && rest.all fun b => (continuation? b).isSome

end Stagewright.Text
