/-
  StakeRelay.Text.Blank — white space and trimming.

  White space is the Unicode property `White_Space`, which is wider than the
  ASCII blanks (it holds U+0085, U+00A0 and U+3000) and does not contain the
  zero-width characters U+200B and U+FEFF.
-/

namespace StakeRelay.Text

/-! ## §1. The property -/

/-- A character with the Unicode property `White_Space`. -/
def isBlank (c : Char) : Bool :=
  let n := c.toNat
  (0x09 ≤ n && n ≤ 0x0D) || n == 0x20 || n == 0x85 || n == 0xA0 || n == 0x1680 ||
    (0x2000 ≤ n && n ≤ 0x200A) || n == 0x2028 || n == 0x2029 || n == 0x202F ||
    n == 0x205F || n == 0x3000

/-! ## §2. Trimming -/

/-- The characters without the white space at either end. -/
def trimChars (cs : List Char) : List Char :=
  ((cs.dropWhile isBlank).reverse.dropWhile isBlank).reverse

/-- The text without the white space at either end. -/
def trim (s : String) : String :=
  String.ofList (trimChars s.toList)

end StakeRelay.Text
