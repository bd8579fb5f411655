/-
  StakeRelay.Proofs.Number.BigEndian — minimal forms.

  A number has as many bytes as its value needs: at most `k` below `256 ^ k`, and none
  only for zero. In a form of a fixed width the bytes ahead of those are zero.

  Main statements:
    * `value_lt` — what a number of bytes can spell;
    * `eq_value_append_iff` — a number is in the last bytes just if those ahead are zero;
    * `value_minimal` — reading a minimal form gives the number back;
    * `minimal_ne_zero_cons` — a minimal form starts with no zero byte;
    * `length_minimal_le` — how long it is;
    * `value_padded`, `length_padded` — the form of a fixed width.
-/

import Mathlib.Algebra.Group.Nat.Defs
import StakeRelay.Number.BigEndian

namespace StakeRelay.BigEndian

/-! ## §1. Reading -/

/-- Reading on from `n` shifts it by the bytes that are read. -/
theorem foldl_value (bs : Bytes) (n : Nat) :
    bs.foldl (fun n b => n * 256 + b.toNat) n = n * 256 ^ bs.length + value bs := by
  induction bs generalizing n with
  | nil => simp [value]
  | cons b bs ih =>
    have h : value (b :: bs) = b.toNat * 256 ^ bs.length + value bs := by
      rw [value, List.foldl_cons, ih]; simp
    rw [List.foldl_cons, ih, h, List.length_cons, Nat.pow_succ, Nat.add_mul, Nat.mul_assoc,
      Nat.mul_comm 256, Nat.add_assoc]

/-- `value` of `as ++ bs` is that of `as`, shifted by `bs`, and that of `bs`. -/
theorem value_append (as bs : Bytes) :
    value (as ++ bs) = value as * 256 ^ bs.length + value bs := by
  rw [value, List.foldl_append, foldl_value]; rfl

theorem value_singleton (b : UInt8) : value [b] = b.toNat := by
  show 0 * 256 + b.toNat = _
  omega

theorem value_cons (b : UInt8) (bs : Bytes) :
    value (b :: bs) = b.toNat * 256 ^ bs.length + value bs := by
  rw [← value_singleton]
  exact value_append [b] bs

/-- What some bytes spell is below `256 ^ bs.length`. -/
theorem value_lt (bs : Bytes) : value bs < 256 ^ bs.length := by
  induction bs with
  | nil => exact Nat.one_pos
  | cons b bs ih =>
    have high : (b.toNat + 1) * 256 ^ bs.length ≤ 256 * 256 ^ bs.length :=
      Nat.mul_le_mul_right _ b.toNat_lt
    rw [Nat.succ_mul] at high
    rw [value_cons, List.length_cons, Nat.pow_succ]
    omega

/-- Only zeros spell zero. -/
theorem value_eq_zero_iff {bs : Bytes} : value bs = 0 ↔ bs = List.replicate bs.length 0 := by
  induction bs with
  | nil => exact ⟨fun _ => rfl, fun _ => rfl⟩
  | cons b bs ih =>
    have power : 256 ^ bs.length ≠ 0 := Nat.pos_iff_ne_zero.mp (Nat.pow_pos (by decide))
    have zero : b = 0 ↔ b.toNat = 0 := UInt8.toNat_inj.symm
    rw [value_cons, List.length_cons, List.replicate_succ, List.cons.injEq, ← ih, zero,
      Nat.add_eq_zero_iff, Nat.mul_eq_zero, or_iff_left power]

/-- A number `n` that fits `back` is spelled by `front ++ back` just if `back` spells it and
    `front` is zeros. -/
theorem eq_value_append_iff {n : Nat} {front back : Bytes} (small : n < 256 ^ back.length) :
    n = value (front ++ back) ↔
      front = List.replicate front.length 0 ∧ n = value back := by
  rw [value_append, ← value_eq_zero_iff]
  constructor
  · intro same
    rcases Nat.eq_zero_or_pos (value front) with zero | more
    · rw [zero, Nat.zero_mul, Nat.zero_add] at same
      exact ⟨zero, same⟩
    · have := Nat.mul_le_mul_right (256 ^ back.length) more
      omega
  · rintro ⟨zero, rfl⟩
    rw [zero, Nat.zero_mul, Nat.zero_add]

/-! ## §2. Writing -/

theorem minimal_zero : minimal 0 = [] := by
  rw [minimal]; rfl

/-- The fewest bytes of `n ≠ 0` are those of `n / 256` and the byte `n % 256`. -/
theorem minimal_pos {n : Nat} (h : n ≠ 0) :
    minimal n = minimal (n / 256) ++ [UInt8.ofNat (n % 256)] := by
  rw [minimal, if_neg h]

/-- They spell `n`. -/
theorem value_minimal (n : Nat) : value (minimal n) = n := by
  induction n using Nat.strongRecOn with
  | ind n ih =>
    by_cases h : n = 0
    · subst h; rw [minimal_zero]; rfl
    · rw [minimal_pos h, value_append, ih (n / 256) (by omega)]
      -- the last byte is the remainder; the bytes before it are those of the quotient
      have hv : value [UInt8.ofNat (n % 256)] = n % 256 := by
        rw [value_singleton]
        simp
      rw [hv, List.length_singleton]
      omega

/-- They do not begin with zero. -/
theorem minimal_ne_zero_cons (n : Nat) (bs : Bytes) : minimal n ≠ 0 :: bs := by
  induction n using Nat.strongRecOn generalizing bs with
  | ind n ih =>
    by_cases h : n = 0
    · subst h; rw [minimal_zero]; simp
    · intro e
      rw [minimal_pos h] at e
      -- below 256 the first byte is the number itself, above it is the first of the quotient
      by_cases hq : n / 256 = 0
      · rw [hq, minimal_zero, List.nil_append] at e
        have hb : (UInt8.ofNat (n % 256)).toNat = (0 : UInt8).toNat := by
          rw [(List.cons.inj e).1]
        simp at hb
        omega
      · have hm : minimal (n / 256) ≠ [] := by
          rw [minimal_pos hq]; simp
        obtain ⟨c, cs, hc⟩ := List.exists_cons_of_ne_nil hm
        rw [hc, List.cons_append] at e
        have h0 := (List.cons.inj e).1
        subst h0
        exact ih (n / 256) (by omega) cs hc

/-! ## §3. Length -/

/-- A number below `256 ^ k` needs `k` bytes at most. -/
theorem length_minimal_le {k n : Nat} (h : n < 256 ^ k) : (minimal n).length ≤ k := by
  induction k generalizing n with
  | zero =>
    obtain rfl : n = 0 := by simpa using h
    rw [minimal_zero]
    exact Nat.le_refl 0
  | succ k ih =>
    by_cases zero : n = 0
    · rw [zero, minimal_zero]
      exact Nat.zero_le _
    · rw [minimal_pos zero, List.length_append, List.length_singleton]
      have := ih (n := n / 256) (Nat.div_lt_of_lt_mul (by rwa [Nat.pow_succ, Nat.mul_comm] at h))
      omega

/-- `padded width n` spells `n`. -/
theorem value_padded (width n : Nat) : value (padded width n) = n := by
  have zeros : value (List.replicate (width - (minimal n).length) 0) = 0 :=
    value_eq_zero_iff.mpr (by rw [List.length_replicate])
  rw [padded, value_append, zeros, Nat.zero_mul, Nat.zero_add, value_minimal]

/-- And has `width` bytes, if `n` fits them. -/
theorem length_padded {width n : Nat} (small : n < 256 ^ width) :
    (padded width n).length = width := by
  have := length_minimal_le small
  rw [padded, List.length_append, List.length_replicate]
  omega

theorem minimal_ne_nil {n : Nat} (h : n ≠ 0) : minimal n ≠ [] := by
  rw [minimal_pos h]
  exact List.append_ne_nil_of_right_ne_nil _ (List.cons_ne_nil _ _)

/-- The first byte of a minimal form. -/
theorem minimal_cons {n : Nat} (h : n ≠ 0) :
    ∃ first rest, minimal n = first :: rest ∧ first ≠ 0 := by
  obtain ⟨first, rest, form⟩ := List.exists_cons_of_ne_nil (minimal_ne_nil h)
  refine ⟨first, rest, form, fun zero => ?_⟩
  subst zero
  exact minimal_ne_zero_cons n rest form

end StakeRelay.BigEndian
