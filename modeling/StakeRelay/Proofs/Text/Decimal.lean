/-
  StakeRelay.Proofs.Text.Decimal — which texts are numbers.

  Reading keeps the value of the digits so far. On digits it fails only where that value
  leaves the range, and the value never falls. So digits are a number just if their value
  is in the range, however many zeros they start with, and no value is ever cut.

  Main statements:
    * `readChars_ok_iff` — what is read, and as which number;
    * `readChars_write` — written numbers are read again.
-/

import StakeRelay.Text.Decimal

namespace StakeRelay.Decimal

/-! ## §1. Digits -/

theorem isDigit_iff {c : Char} : c.isDigit = true ↔ 48 ≤ c.toNat ∧ c.toNat ≤ 57 := by
  simp only [Char.isDigit, Bool.and_eq_true, decide_eq_true_eq, UInt32.le_iff_toNat_le]
  exact Iff.rfl

theorem digit?_of_isDigit {c : Char} (h : c.isDigit = true) : digit? c = some (c.toNat - 48) :=
  if_pos (isDigit_iff.mp h)

theorem digit?_of_not_isDigit {c : Char} (h : ¬ c.isDigit = true) : digit? c = none :=
  if_neg (mt isDigit_iff.mpr h)

theorem le_ofDigitChars (cs : List Char) (n : Nat) : n ≤ Nat.ofDigitChars 10 cs n := by
  induction cs generalizing n with
  | nil => exact Nat.le_refl n
  | cons c cs ih =>
    rw [Nat.ofDigitChars_cons]
    have := ih (10 * n + (c.toNat - '0'.toNat))
    omega

/-- Digits are read as long as their value stays in the range. -/
theorem readDigits_of_isDigit {cs : List Char} {n : Nat} (digits : ∀ c ∈ cs, c.isDigit = true)
    (small : Nat.ofDigitChars 10 cs n < bound) :
    readDigits n cs = .ok (Nat.ofDigitChars 10 cs n) := by
  induction cs generalizing n with
  | nil => rfl
  | cons c cs ih =>
    rw [Nat.ofDigitChars_cons] at small ⊢
    -- the value behind this digit is at most the value of the whole
    have front := le_ofDigitChars cs (10 * n + (c.toNat - '0'.toNat))
    have rest := ih (fun c member => digits c (List.mem_cons_of_mem _ member)) small
    unfold readDigits
    rw [digit?_of_isDigit (digits c List.mem_cons_self)]
    simp only
    rw [if_pos (by rw [Nat.mul_comm]; exact Nat.lt_of_le_of_lt front small), Nat.mul_comm]
    exact rest

/-- Digits are read just if their value, behind that of the digits before them, is below
    `bound`. -/
theorem readDigits_ok_iff {cs : List Char} {n m : Nat} (start : n < bound) :
    readDigits n cs = .ok m ↔
      (∀ c ∈ cs, c.isDigit = true) ∧ Nat.ofDigitChars 10 cs n = m ∧ m < bound := by
  constructor
  · intro read
    induction cs generalizing n with
    | nil =>
      cases read
      exact ⟨List.forall_mem_nil _, rfl, start⟩
    | cons c cs ih =>
      unfold readDigits at read
      by_cases digit : c.isDigit = true
      · rw [digit?_of_isDigit digit] at read
        simp only at read
        split at read
        · next small =>
          obtain ⟨digits, value, inside⟩ := ih small read
          rw [Nat.mul_comm] at value
          exact ⟨List.forall_mem_cons.mpr ⟨digit, digits⟩, value, inside⟩
        · cases read
      · rw [digit?_of_not_isDigit digit] at read
        cases read
  · rintro ⟨digits, rfl, small⟩
    exact readDigits_of_isDigit digits small

/-! ## §2. Numbers -/

/-- The characters are at least one digit, behind a plus sign or none, and the digits have
    the given value. -/
def Spells (cs : List Char) (n : Nat) : Prop :=
  ∃ digits, (cs = digits ∨ cs = '+' :: digits) ∧ digits ≠ [] ∧ (∀ c ∈ digits, c.isDigit = true) ∧
    Nat.ofDigitChars 10 digits 0 = n

/-- A text is read as the number that it `Spells`, if that is below `bound`. -/
theorem readChars_ok_iff {cs : List Char} {n : Nat} :
    readChars cs = .ok n ↔ Spells cs n ∧ n < bound := by
  have plus {digits : List Char} : ¬ ∀ c ∈ '+' :: digits, c.isDigit = true :=
    fun all => absurd (all '+' List.mem_cons_self) (by decide)
  unfold readChars
  -- a lone sign is refused apart, since the digits behind it are none
  split
  · refine iff_of_false nofun ?_
    rintro ⟨⟨digits, rfl | sign, some, -⟩, -⟩
    · exact some rfl
    · cases sign
  · refine iff_of_false nofun ?_
    rintro ⟨⟨digits, rfl | sign, some, all, -⟩, -⟩
    · exact plus all
    · exact some (List.cons.inj sign).2.symm
  · next rest single =>
    rw [readDigits_ok_iff (by decide)]
    constructor
    · rintro ⟨all, value, small⟩
      exact ⟨⟨rest, .inr rfl, fun none => single none, all, value⟩, small⟩
    · rintro ⟨⟨digits, rfl | sign, -, all, value⟩, small⟩
      · exact absurd all plus
      · obtain rfl := (List.cons.inj sign).2
        exact ⟨all, value, small⟩
  · next some single signed =>
    rw [readDigits_ok_iff (by decide)]
    constructor
    · rintro ⟨all, value, small⟩
      exact ⟨⟨cs, .inl rfl, fun none => some none, all, value⟩, small⟩
    · rintro ⟨⟨digits, rfl | sign, -, all, value⟩, small⟩
      · exact ⟨all, value, small⟩
      · exact absurd sign (signed digits)

/-! ## §3. Written numbers -/

theorem isDigit_of_mem_write {n : UInt64} {c : Char} (h : c ∈ (write n).toList) :
    c.isDigit = true := by
  unfold write at h
  rw [show toString n.toNat = n.toNat.repr from rfl, Nat.toList_repr] at h
  exact Nat.isDigit_of_mem_toDigits (by decide) (by decide) h

theorem write_ne_nil (n : UInt64) : (write n).toList ≠ [] := by
  unfold write
  rw [show toString n.toNat = n.toNat.repr from rfl, Nat.toList_repr]
  exact Nat.toDigits_ne_nil

/-- A number written by `write` spells itself. -/
theorem spells_write (n : UInt64) : Spells (write n).toList n.toNat := by
  refine ⟨_, .inl rfl, write_ne_nil n, fun c => isDigit_of_mem_write, ?_⟩
  unfold write
  rw [show toString n.toNat = n.toNat.repr from rfl, Nat.toList_repr,
    Nat.ofDigitChars_ten_toDigits]

/-- A number written by `write` is read again. -/
theorem readChars_write (n : UInt64) : readChars (write n).toList = .ok n.toNat :=
  readChars_ok_iff.mpr ⟨spells_write n, n.toNat_lt⟩

end StakeRelay.Decimal
