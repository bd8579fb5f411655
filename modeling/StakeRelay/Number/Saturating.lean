/-
  StakeRelay.Number.Saturating — 64-bit sums and products that stop at the top.

  Heights and registry indices are 64-bit words. Where a sum or a product could leave
  the range it is replaced by the greatest word, so that a comparison with it still
  has the right answer.
-/

namespace StakeRelay.Saturating

/-- The greatest 64-bit word. -/
def top : UInt64 := UInt64.ofNat 0xFFFF_FFFF_FFFF_FFFF

/-- The word of a number, or the greatest word when the number has no word. -/
def clamp (n : Nat) : UInt64 :=
  if n < 0x1_0000_0000_0000_0000 then UInt64.ofNat n else top

/-- The sum, at most the greatest word. -/
def add (a b : UInt64) : UInt64 := clamp (a.toNat + b.toNat)

/-- The product, at most the greatest word. -/
def mul (a b : UInt64) : UInt64 := clamp (a.toNat * b.toNat)

theorem toNat_top : top.toNat = 0xFFFF_FFFF_FFFF_FFFF := rfl

theorem toNat_clamp (n : Nat) : (clamp n).toNat = min n 0xFFFF_FFFF_FFFF_FFFF := by
  simp only [clamp]
  split
  · rename_i h
    rw [UInt64.toNat_ofNat', Nat.mod_eq_of_lt h]
    omega
  · rw [toNat_top]
    omega

theorem toNat_add (a b : UInt64) : (add a b).toNat = min (a.toNat + b.toNat) 0xFFFF_FFFF_FFFF_FFFF :=
  toNat_clamp _

theorem toNat_mul (a b : UInt64) : (mul a b).toNat = min (a.toNat * b.toNat) 0xFFFF_FFFF_FFFF_FFFF :=
  toNat_clamp _

end StakeRelay.Saturating
