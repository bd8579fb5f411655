/-
  StakeRelay.Text.Quoted — texts and characters between quotes.

  A text stands between double quotes and a character between single quotes. The
  delimiter and the backslash are escaped by a backslash, as are newline, carriage
  return, tab and NUL by their letters; every other unprintable character is spelled
  by its code point in hexadecimal.
-/

import StakeRelay.Text.Unprintable

namespace StakeRelay.Text

/-! ## §1. Escapes -/

/-- The hexadecimal digits of a number, without leading zeros. -/
def hexDigits (n : Nat) : List Char :=
  Nat.toDigits 16 n

/-- The form of `c` between a pair of `delimiter`s. -/
def escape (delimiter c : Char) : List Char :=
  if c = '\x00' then ['\\', '0']
  else if c = '\t' then ['\\', 't']
  else if c = '\r' then ['\\', 'r']
  else if c = '\n' then ['\\', 'n']
  else if c = '\\' ∨ c = delimiter then ['\\', c]
  else if isUnprintable c then ['\\', 'u', '\x7b'] ++ hexDigits c.toNat ++ ['\x7d']
  else [c]

/-! ## §2. Quoted forms -/

/-- The text between double quotes. -/
def quote (s : String) : String :=
  String.ofList ('\x22' :: s.toList.flatMap (escape '\x22') ++ ['\x22'])

/-- The character between single quotes. -/
def quoteChar (c : Char) : String :=
  String.ofList ('\x27' :: escape '\x27' c ++ ['\x27'])

end StakeRelay.Text
