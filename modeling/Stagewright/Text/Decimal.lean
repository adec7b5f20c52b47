import Stagewright.Text.Blank

/-!
Digits of the decimal system. Every script has its own ten, which stand one after the other.
-/

namespace Stagewright.Text

/-- The zeros of all scripts. -/
def zeros : List Nat := [
  0x30, 0x660, 0x6f0, 0x7c0, 0x966, 0x9e6, 0xa66, 0xae6, 0xb66, 0xbe6, 0xc66, 0xce6, 0xd66, 0xde6,
  0xe50, 0xed0, 0xf20, 0x1040, 0x1090, 0x17e0, 0x1810, 0x1946, 0x19d0, 0x1a80, 0x1a90, 0x1b50,
  0x1bb0, 0x1c40, 0x1c50, 0xa620, 0xa8d0, 0xa900, 0xa9d0, 0xa9f0, 0xaa50, 0xabf0, 0xff10, 0x104a0,
  0x10d30, 0x11066, 0x110f0, 0x11136, 0x111d0, 0x112f0, 0x11450, 0x114d0, 0x11650, 0x116c0,
  0x11730, 0x118e0, 0x11950, 0x11c50, 0x11d50, 0x11da0, 0x16a60, 0x16ac0, 0x16b50, 0x1d7ce,
  0x1d7d8, 0x1d7e2, 0x1d7ec, 0x1d7f6, 0x1e140, 0x1e2f0, 0x1e950, 0x1fbf0]

/-- The number that a digit of any script stands for. -/
def decimal? (c : Char) : Option Nat :=
  (zeros.find? fun z => z ≤ c.toNat && c.toNat < z + 10).map (c.toNat - ·)

/-- A character of a number as it is written in the Latin script: white space of other scripts is
a space, and their digits are Latin ones. -/
def latinNumeral (c : Char) : Char :=
  if c.toNat < 128 then c
  else if isBlank c then ' '
  else (decimal? c).elim c fun n => Char.ofNat (48 + n)

/-- White space around a number. -/
def isNumberGap (c : Char) : Bool := c = ' ' || (9 ≤ c.toNat && c.toNat ≤ 13)

/-- A number without the white space around it, in the Latin script. -/
def numeral (cs : List Char) : List Char :=
  (((cs.map latinNumeral).dropWhile isNumberGap).reverse.dropWhile isNumberGap).reverse

end Stagewright.Text
