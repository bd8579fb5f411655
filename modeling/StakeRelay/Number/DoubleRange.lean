/-
  StakeRelay.Number.DoubleRange — which decimals a number of double precision can hold.

  The greatest such number is 2^1024 - 2^971. A decimal is beyond the range if it is at
  least half a unit above that, 2^1024 - 2^970, for then it is nearer to infinity.
-/

namespace StakeRelay.DoubleRange

/-- The least number that is beyond the range. -/
def bound : Nat := Nat.pow 2 1024 - Nat.pow 2 970

/-- Whether `digits`, multiplied by a power of ten, is beyond the range. Powers above 400
    and fractions with more digits than the number has bits need no multiplication. -/
def isBeyond (digits : Nat) (power : Int) : Bool :=
  if digits = 0 then false
  else
    match power with
    | .ofNat p => 400 < p || bound ≤ digits * Nat.pow 10 p
    | .negSucc p => p < digits.log2 && bound * Nat.pow 10 (p + 1) ≤ digits

end StakeRelay.DoubleRange
