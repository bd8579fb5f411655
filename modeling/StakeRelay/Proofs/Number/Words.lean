/-
  StakeRelay.Proofs.Number.Words — heights as natural numbers.

  The follower counts heights in words that wrap around. Below the greatest word its sums
  and maxima are those of the natural numbers.
-/

import Mathlib.Algebra.Group.Nat.Defs
import StakeRelay.Number.Saturating

namespace StakeRelay.Words

variable {h : UInt64}

theorem toNat_max (a b : UInt64) : (max a b).toNat = max a.toNat b.toNat := by
  show (if a ≤ b then b else a).toNat = _
  split
  · rename_i le
    rw [UInt64.le_iff_toNat_le] at le
    omega
  · rename_i gt
    rw [UInt64.le_iff_toNat_le] at gt
    omega

theorem toNat_succ (small : h.toNat < 2 ^ 64 - 1) : (h + 1).toNat = h.toNat + 1 := by
  rw [UInt64.toNat_add]
  show (h.toNat + 1) % 2 ^ 64 = _
  omega

theorem lt_succ (small : h.toNat < 2 ^ 64 - 1) : h < h + 1 := by
  rw [UInt64.lt_iff_toNat_lt, toNat_succ small]
  exact Nat.lt_succ_self _

/-- The height behind a boundary, as the cursor has it and as the loop has it. -/
theorem add_one_eq (small : h.toNat < 2 ^ 64 - 1) : Saturating.add h 1 = h + 1 := by
  rw [← UInt64.toNat_inj, toNat_succ small, Saturating.toNat_add]
  show min (h.toNat + 1) _ = _
  omega

/-- A height that lies a number of heights behind another. -/
theorem add_ofNat {first : UInt64} {n : Nat} (place : h.toNat = first.toNat + n) :
    first + .ofNat n = h := by
  have := h.toNat_lt
  rw [← UInt64.toNat_inj, UInt64.toNat_add, UInt64.toNat_ofNat', place]
  omega

theorem add_ofNat_zero (h : UInt64) : h + .ofNat 0 = h := UInt64.add_zero h

theorem toNat_add_ofNat {n : Nat} (small : h.toNat + n < 2 ^ 64) :
    (h + .ofNat n).toNat = h.toNat + n := by
  rw [UInt64.toNat_add, UInt64.toNat_ofNat']
  omega

theorem add_ofNat_add (h : UInt64) (m n : Nat) :
    h + .ofNat m + .ofNat n = h + .ofNat (m + n) := by
  rw [UInt64.add_assoc, UInt64.ofNat_add]

theorem add_ofNat_succ (h : UInt64) (n : Nat) : h + .ofNat (n + 1) = h + .ofNat n + 1 :=
  (add_ofNat_add h n 1).symm

theorem add_one_add (h : UInt64) (n : Nat) : h + 1 + .ofNat n = h + .ofNat (n + 1) := by
  rw [Nat.add_comm n]
  exact add_ofNat_add h 1 n

end StakeRelay.Words
