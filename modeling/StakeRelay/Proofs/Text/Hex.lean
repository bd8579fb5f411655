/-
  StakeRelay.Proofs.Text.Hex — which texts are bytes in hexadecimal.

  A byte is written as the digits of its two halves. Reading looks at the bytes of a text, but
  no byte of a character beyond ASCII is a digit. So a text is read as some bytes just if its
  characters, all in lower case, are the digits that are written for these bytes.

  Main statements:
    * `decode_ok_iff` — which texts are read, and as which bytes;
    * `exists_digits_iff` — which texts are the digits of so many bytes.
-/

import StakeRelay.Proofs.Text.Utf8
import StakeRelay.Text.Ascii

namespace StakeRelay

/-! ## §1. Digits -/

theorem Ascii.toNat_ofNat {n : Nat} (small : n < 0xD800) : (Char.ofNat n).toNat = n := by
  unfold Char.ofNat
  rw [dif_pos (.inl small)]
  rfl

theorem Ascii.toNat_lower (c : Char) :
    (lower c).toNat = if 65 ≤ c.toNat ∧ c.toNat ≤ 90 then c.toNat + 32 else c.toNat := by
  unfold lower
  simp only [Bool.and_eq_true, decide_eq_true_eq]
  split
  · exact toNat_ofNat (by omega)
  · rfl

namespace Hex

/-- A hexadecimal digit of either case. -/
def IsDigit (c : Char) : Prop :=
  ('0' ≤ c ∧ c ≤ '9') ∨ ('a' ≤ c ∧ c ≤ 'f') ∨ ('A' ≤ c ∧ c ≤ 'F')

variable {c : Char} {v : Nat}

theorem isDigit_iff : IsDigit c ↔ (48 ≤ c.toNat ∧ c.toNat ≤ 57) ∨ (97 ≤ c.toNat ∧ c.toNat ≤ 102) ∨
    (65 ≤ c.toNat ∧ c.toNat ≤ 70) := by
  unfold IsDigit
  simp only [Char.le_def, UInt32.le_iff_toNat_le]
  exact Iff.rfl

theorem toNat_digit (small : v < 16) : (digit v).toNat = if v < 10 then 48 + v else 87 + v := by
  unfold digit
  split <;> exact Ascii.toNat_ofNat (by omega)

/-- A character has a value just if its lower-case form is the `digit` of that value. -/
theorem hexValue?_eq_iff (small : v < 16) :
    Ascii.hexValue? c = some v ↔ Ascii.lower c = digit v := by
  rw [← Char.toNat_inj, Ascii.toNat_lower, toNat_digit small]
  unfold Ascii.hexValue? value?
  split
  · next ascii =>
    have code : (UInt8.ofNat c.toNat).toNat = c.toNat := by
      rw [UInt8.toNat_ofNat']
      omega
    simp only [code]
    grind
  · next beyond => grind

theorem isDigit_iff_exists : IsDigit c ↔ ∃ v < 16, Ascii.lower c = digit v := by
  rw [isDigit_iff]
  constructor
  · intro range
    refine ⟨if c.toNat ≤ 57 then c.toNat - 48 else if c.toNat ≤ 70 then c.toNat - 55
      else c.toNat - 87, by grind, ?_⟩
    rw [← Char.toNat_inj, Ascii.toNat_lower, toNat_digit (by grind)]
    grind
  · rintro ⟨v, small, same⟩
    rw [← Char.toNat_inj, Ascii.toNat_lower, toNat_digit small] at same
    grind

/-! ## §2. Bytes -/

/-- The halves of the bytes, the upper one first. -/
def halves (bs : Bytes) : List Nat := bs.flatMap fun b => [b.toNat / 16, b.toNat % 16]

theorem halves_cons (b : UInt8) (bs : Bytes) :
    halves (b :: bs) = b.toNat / 16 :: b.toNat % 16 :: halves bs := rfl

theorem lt_of_mem_halves {bs : Bytes} (member : v ∈ halves bs) : v < 16 := by
  obtain ⟨b, -, half⟩ := List.mem_flatMap.mp member
  have := b.toNat_lt
  simp only [List.mem_cons, List.not_mem_nil, or_false] at half
  omega

theorem encodeChars_eq (bs : Bytes) : encodeChars bs = (halves bs).map digit := by
  unfold encodeChars halves
  rw [List.map_flatMap]
  rfl

/-- The digits that are written are in lower case. -/
theorem map_lower_encodeChars (bs : Bytes) : (encodeChars bs).map Ascii.lower = encodeChars bs := by
  rw [encodeChars_eq, List.map_map]
  refine List.map_congr_left fun v half => ?_
  have small := lt_of_mem_halves half
  show Ascii.lower (digit v) = digit v
  rw [← Char.toNat_inj, Ascii.toNat_lower, toNat_digit small]
  grind

theorem length_halves (bs : Bytes) : (halves bs).length = 2 * bs.length := by
  rw [← length_encodeChars, encodeChars_eq, List.length_map]

/-- A byte is put together from its halves, `b / 16` and `b % 16`. -/
theorem ofNat_halves (b : UInt8) : UInt8.ofNat (16 * (b.toNat / 16) + b.toNat % 16) = b := by
  rw [Nat.div_add_mod, UInt8.ofNat_toNat]

/-- Digits are read in pairs, whose values are the `halves` of the bytes. -/
theorem decodeFrom_ok_iff {p : Nat} {text bs : Bytes} :
    decodeFrom p text = .ok bs ↔ text.map value? = (halves bs).map some := by
  -- every case but the last is refused, and there no halves can match; so only the pair matters
  fun_induction decodeFrom p text generalizing bs with
  | case1 p =>
    cases bs with
    | nil => exact iff_of_true rfl rfl
    | cons b bs => exact iff_of_false nofun nofun
  | case2 p lone =>
    refine iff_of_false nofun fun same => ?_
    have lengths := congrArg List.length same
    rw [List.length_map, List.length_map, length_halves, List.length_singleton] at lengths
    omega
  | case3 p hi lo rest no_digit =>
    refine iff_of_false nofun fun same => ?_
    cases bs with
    | nil => cases same
    | cons b bs => simp [halves_cons, no_digit] at same
  | case4 p hi lo rest h no_digit high =>
    refine iff_of_false nofun fun same => ?_
    cases bs with
    | nil => cases same
    | cons b bs => simp [halves_cons, no_digit] at same
  | case5 p hi lo rest h l low high fault failed ih =>
    refine iff_of_false nofun fun same => ?_
    cases bs with
    | nil => cases same
    | cons b bs =>
      have later := ih.mpr (List.cons.inj (List.cons.inj same).2).2
      rw [failed] at later
      cases later
  | case6 p hi lo rest h l low high bytes read ih =>
    have rest_eq : rest.map value? = (halves bytes).map some := ih.mp read
    have small := value?_lt high
    have small' := value?_lt low
    constructor
    · rintro told
      cases told
      have whole : (UInt8.ofNat (16 * h + l)).toNat = 16 * h + l := by
        rw [UInt8.toNat_ofNat']
        omega
      rw [halves_cons, whole, List.map_cons, List.map_cons, List.map_cons, List.map_cons, high,
        low, rest_eq, show (16 * h + l) / 16 = h by omega, show (16 * h + l) % 16 = l by omega]
    · intro same
      cases bs with
      | nil => cases same
      | cons b bs =>
        rw [halves_cons, List.map_cons, List.map_cons, List.map_cons, List.map_cons, high, low] at same
        injection same with upper same
        injection same with lower same
        obtain rfl := Option.some.inj upper
        obtain rfl := Option.some.inj lower
        rw [ofNat_halves, Except.ok.inj ((ih.mpr same).symm.trans read)]

/-- A text is read just if the values of its digits are the `halves` of the bytes. An odd number
    of digits is refused before, and there is no such half. -/
theorem decode_values_iff {text bs : Bytes} :
    decode text = .ok bs ↔ text.map value? = (halves bs).map some := by
  unfold decode
  split
  · next odd =>
    refine iff_of_false nofun fun same => ?_
    have lengths := congrArg List.length same
    rw [List.length_map, List.length_map, length_halves] at lengths
    omega
  · exact decodeFrom_ok_iff

/-! ## §3. Characters -/

/-- A character beyond ASCII starts with a byte that is no digit (`value?` is `none`). -/
theorem encodeChar_of_not_isAscii (beyond : ¬ Utf8.IsAscii c) :
    ∃ first rest, String.utf8EncodeChar c = first :: rest ∧ value? first = none := by
  have no_digit {n : Nat} (large : 192 ≤ n) (small : n < 256) : value? (UInt8.ofNat n) = none := by
    unfold value?
    rw [UInt8.toNat_ofNat', Nat.mod_eq_of_lt small]
    grind
  have size : ¬ c.val.toNat ≤ 127 := fun small => beyond (Nat.lt_succ_of_le small)
  unfold String.utf8EncodeChar
  simp only
  rw [if_neg size]
  split
  · exact ⟨_, _, rfl, no_digit (by omega) (by omega)⟩
  split
  · exact ⟨_, _, rfl, no_digit (by omega) (by omega)⟩
  · exact ⟨_, _, rfl, no_digit (by omega) (by omega)⟩

/-- The digits among the bytes of some characters are the digits among the characters. -/
theorem map_value?_encodeChars {cs : List Char} {vs : List Nat} :
    (Utf8.encodeChars cs).map value? = vs.map some ↔ cs.map Ascii.hexValue? = vs.map some := by
  induction cs generalizing vs with
  | nil => exact Iff.rfl
  | cons c cs ih =>
    have whole : Utf8.encodeChars (c :: cs) = String.utf8EncodeChar c ++ Utf8.encodeChars cs := rfl
    rw [whole, List.map_append, List.map_cons]
    by_cases ascii : Utf8.IsAscii c
    · have value : Ascii.hexValue? c = value? (UInt8.ofNat c.toNat) := if_pos ascii
      rw [Utf8.encodeChar_of_isAscii ascii, value]
      cases vs with
      | nil => exact iff_of_false nofun nofun
      | cons v vs =>
        rw [List.map_cons, List.map_cons, List.map_nil, List.singleton_append, List.cons.injEq,
          List.cons.injEq, ih]
    · have beyond : Ascii.hexValue? c = none := if_neg ascii
      obtain ⟨first, rest, split, no_digit⟩ := encodeChar_of_not_isAscii ascii
      rw [split, beyond]
      cases vs with
      | nil => exact iff_of_false nofun nofun
      | cons v vs => simp [no_digit]

/-- The values of some characters, and the `digit`s that are written for these values. -/
theorem map_hexValue?_iff {cs : List Char} {vs : List Nat} (small : ∀ v ∈ vs, v < 16) :
    cs.map Ascii.hexValue? = vs.map some ↔ cs.map Ascii.lower = vs.map digit := by
  induction cs generalizing vs with
  | nil => cases vs <;> simp
  | cons c cs ih =>
    cases vs with
    | nil => exact iff_of_false nofun nofun
    | cons v vs =>
      rw [List.map_cons, List.map_cons, List.map_cons, List.map_cons, List.cons.injEq,
        List.cons.injEq, hexValue?_eq_iff (small v List.mem_cons_self),
        ih fun w member => small w (List.mem_cons_of_mem _ member)]

/-- A text is read as some bytes just if it is the digits that `encodeChars` writes for them, of
    either case. -/
theorem decode_ok_iff {cs : List Char} {bs : Bytes} :
    decode (Utf8.encodeChars cs) = .ok bs ↔ cs.map Ascii.lower = encodeChars bs := by
  rw [decode_values_iff, map_value?_encodeChars, map_hexValue?_iff fun _ => lt_of_mem_halves,
    encodeChars_eq]

/-- Just the texts of so many digits are those of some bytes. -/
theorem exists_digits_iff {cs : List Char} {n : Nat} :
    (∃ bs : Bytes, bs.length = n ∧ cs.map Ascii.lower = encodeChars bs) ↔
      cs.length = 2 * n ∧ ∀ c ∈ cs, IsDigit c := by
  constructor
  · rintro ⟨bs, rfl, same⟩
    constructor
    · rw [← length_encodeChars, ← same, List.length_map]
    · intro c member
      have written := List.mem_map_of_mem (f := Ascii.lower) member
      rw [same, encodeChars_eq] at written
      obtain ⟨v, half, same⟩ := List.mem_map.mp written
      exact isDigit_iff_exists.mpr ⟨v, lt_of_mem_halves half, same.symm⟩
  · rintro ⟨size, digits⟩
    -- induction on the number of bytes: each of them is spelled by the next two digits
    induction n generalizing cs with
    | zero =>
      obtain rfl := List.eq_nil_of_length_eq_zero size
      exact ⟨[], rfl, rfl⟩
    | succ n ih =>
      match cs, size with
      | hi :: lo :: rest, size =>
        simp only [List.forall_mem_cons] at digits
        obtain ⟨high, low, digits⟩ := digits
        obtain ⟨bs, rfl, same⟩ := ih (by simp only [List.length_cons] at size; omega) digits
        obtain ⟨h, small, high⟩ := isDigit_iff_exists.mp high
        obtain ⟨l, small', low⟩ := isDigit_iff_exists.mp low
        have whole : (UInt8.ofNat (16 * h + l)).toNat = 16 * h + l := by
          rw [UInt8.toNat_ofNat']
          omega
        refine ⟨UInt8.ofNat (16 * h + l) :: bs, rfl, ?_⟩
        rw [encodeChars_eq] at same ⊢
        rw [halves_cons, whole, List.map_cons, List.map_cons, List.map_cons, List.map_cons, same,
          high, low, show (16 * h + l) / 16 = h by omega, show (16 * h + l) % 16 = l by omega]

end Hex

end StakeRelay
