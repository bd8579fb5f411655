/-
  StakeRelay.Text.SpacedHex — hexadecimal forms whose digits may stand apart.

  The length of such a form is that of its whole text, blanks included. The digits that
  are left without the blanks are taken in pairs, one byte for each pair. In a text of odd
  length the first digit is a byte of its own. A digit at the end that finds no partner
  does not count.
-/

import StakeRelay.Number.BigEndian

namespace StakeRelay.SpacedHex

/-- A blank between digits. -/
def isBlank (b : UInt8) : Bool := b = 0x20 || b = 0x09 || b = 0x0A || b = 0x0D

/-- The bytes that pairs of digits spell. -/
def pairs : List Nat → Bytes
  | high :: low :: rest => UInt8.ofNat (16 * high + low) :: pairs rest
  | _ => []

/-- The bytes of a form, if all that is no blank is a digit. -/
def bytes? (text : Bytes) : Option Bytes :=
  ((text.filter (!isBlank ·)).mapM Hex.value?).map fun digits =>
    pairs (if text.length % 2 = 1 then 0 :: digits else digits)

/-- The number of a form with at least one character and at most two for each byte. -/
def number? (width : Nat) (text : Bytes) : Option Nat :=
  if text = [] ∨ 2 * width < text.length then none
  else (bytes? text).map BigEndian.value

/-- The bytes of a form with two characters for each byte. Where blanks leave bytes
    without digits, zeros stand at the end. -/
def fixed? (width : Nat) (text : Bytes) : Option Bytes :=
  if text.length = 2 * width then
    (bytes? text).map fun bs => bs ++ List.replicate (width - bs.length) 0
  else none

end StakeRelay.SpacedHex
