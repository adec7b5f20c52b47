/-!
White space and trimming.
-/

namespace Stagewright.Text

/-- White space: the separators of lines, words and paragraphs, and the control characters that
act as such. The zero width space is not one of them. -/
def isBlank (c : Char) : Bool :=
  let n := c.toNat
  (9 ≤ n && n ≤ 13) || (28 ≤ n && n ≤ 32) || n == 0x85 || n == 0xa0 || n == 0x1680 ||
    (0x2000 ≤ n && n ≤ 0x200a) || n == 0x2028 || n == 0x2029 || n == 0x202f || n == 0x205f ||
    n == 0x3000

/-- Characters without the white space at either end. -/
def trimChars (cs : List Char) : List Char :=
  ((cs.dropWhile isBlank).reverse.dropWhile isBlank).reverse

/-- Text without the white space at either end. -/
def trim (s : String) : String := String.ofList (trimChars s.toList)

/-- Text that holds nothing but white space. -/
def isBlankText (s : String) : Bool := s.toList.all isBlank

end Stagewright.Text
