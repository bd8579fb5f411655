/-
  StakeRelay.Text.Ascii — digits and letters of ASCII, and no others.
-/

import StakeRelay.Text.Hex

namespace StakeRelay.Ascii

/-- A decimal digit. -/
def isDigit (c : Char) : Bool := 48 ≤ c.toNat && c.toNat ≤ 57

/-- A letter of either case. -/
def isLetter (c : Char) : Bool :=
  (97 ≤ c.toNat && c.toNat ≤ 122) || (65 ≤ c.toNat && c.toNat ≤ 90)

/-- The lower-case form of a letter. -/
def lower (c : Char) : Char :=
  if 65 ≤ c.toNat && c.toNat ≤ 90 then Char.ofNat (c.toNat + 32) else c

/-- The value of a hexadecimal digit of either case. -/
def hexValue? (c : Char) : Option Nat :=
  if c.toNat < 128 then Hex.value? (UInt8.ofNat c.toNat) else none

end StakeRelay.Ascii
