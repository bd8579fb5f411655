/-
  StakeRelay.Number.BigEndian — numbers as bytes, most significant byte first.

  `value` reads any byte sequence, leading zeros included. `minimal` writes a number
  without leading zeros, so that zero has no bytes at all, and `padded` writes it
  behind as many zeros as a fixed width asks for.
-/

import StakeRelay.Text.Hex

namespace StakeRelay.BigEndian

/-! ## §1. Reading -/

/-- The number that the bytes spell. -/
def value (bs : Bytes) : Nat :=
  bs.foldl (fun n b => n * 256 + b.toNat) 0

/-! ## §2. Writing -/

/-- The bytes of a number without leading zeros; none for zero. -/
def minimal (n : Nat) : Bytes :=
  if n = 0 then [] else minimal (n / 256) ++ [UInt8.ofNat (n % 256)]
termination_by n
decreasing_by omega

/-- The bytes of a number behind zeros, up to `width` bytes in all. -/
def padded (width n : Nat) : Bytes :=
  List.replicate (width - (minimal n).length) 0 ++ minimal n

end StakeRelay.BigEndian
