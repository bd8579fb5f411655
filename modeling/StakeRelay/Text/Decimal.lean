/-
  StakeRelay.Text.Decimal — unsigned 64-bit numbers in decimal.

  Writing gives the shortest digits. Reading takes an optional `+`, then at least one
  ASCII digit, any number of leading zeros, and stops at the first position where
  either the character is no digit or the value so far leaves the 64-bit range.
-/

namespace StakeRelay.Decimal

/-- One more than the greatest 64-bit number. -/
def bound : Nat := 0x1_0000_0000_0000_0000

/-- Why a text is no 64-bit number. -/
inductive Fault
  /-- The text is empty. -/
  | empty
  /-- A character is no digit, or there is no digit behind a sign. -/
  | notDigit
  /-- The value is 2^64 or more. -/
  | tooLarge
  deriving Repr, DecidableEq

/-- The wording of a fault. -/
def Fault.text : Fault → String
  | .empty => "cannot parse integer from empty string"
  | .notDigit => "invalid digit found in string"
  | .tooLarge => "number too large to fit in target type"

/-- The value of an ASCII digit. -/
def digit? (c : Char) : Option Nat :=
  if 48 ≤ c.toNat ∧ c.toNat ≤ 57 then some (c.toNat - 48) else none

/-- Reads digits behind those whose value is `value`. -/
def readDigits (value : Nat) : List Char → Except Fault Nat
  | [] => .ok value
  | c :: rest =>
    match digit? c with
    | none => .error .notDigit
    | some d =>
      if value * 10 + d < bound then readDigits (value * 10 + d) rest else .error .tooLarge

/-- The number that the characters spell. -/
def readChars : List Char → Except Fault Nat
  | [] => .error .empty
  | ['+'] => .error .notDigit
  | '+' :: rest => readDigits 0 rest
  | cs => readDigits 0 cs

/-- The number that the text spells. -/
def read (s : String) : Except Fault UInt64 :=
  (readChars s.toList).map UInt64.ofNat

/-- The digits of a number. -/
def write (n : UInt64) : String :=
  toString n.toNat

end StakeRelay.Decimal
