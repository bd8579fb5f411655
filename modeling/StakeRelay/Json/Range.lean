/-
  StakeRelay.Json.Range — whether the numbers in a value are within double precision.
-/

import StakeRelay.Json.Basic
import StakeRelay.Number.DoubleRange

namespace StakeRelay.Json

/-- The value of decimal digits; other characters do not count. -/
def digitsValue (cs : List Char) : Nat :=
  (cs.filter Char.isDigit).foldl (fun n c => n * 10 + (c.toNat - 48)) 0

/-- The power of ten that an exponent with an optional sign spells. -/
def exponentValue : List Char → Int
  | '-' :: cs => -(digitsValue cs : Int)
  | cs => (digitsValue cs : Int)

/-- Whether the number that a text spells is within double precision. -/
def isNumberInRange (text : String) : Bool :=
  let isMark : Char → Bool := fun c => c = 'e' || c = 'E'
  let cs := text.toList
  let plain := cs.takeWhile (!isMark ·)
  let fraction := (plain.dropWhile (· ≠ '.')).drop 1
  let power := exponentValue ((cs.dropWhile (!isMark ·)).drop 1) - fraction.length
  !DoubleRange.isBeyond (digitsValue plain) power

mutual

/-- Whether all numbers in a value are within double precision. -/
def isInRange : Json → Bool
  | .null | .bool _ | .string _ => true
  | .number text => isNumberInRange text
  | .array elements => areInRange elements
  | .object fields => areFieldsInRange fields

/-- Whether all numbers in values are within double precision. -/
def areInRange : List Json → Bool
  | [] => true
  | v :: rest => v.isInRange && areInRange rest

/-- Whether all numbers in fields are within double precision. -/
def areFieldsInRange : List (String × Json) → Bool
  | [] => true
  | (_, v) :: rest => v.isInRange && areFieldsInRange rest

end

end StakeRelay.Json
