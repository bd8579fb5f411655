/-
  StakeRelay.Text.Hex — bytes as pairs of hexadecimal digits.

  Writing uses lower-case digits. Reading takes digits of either case and works
  on the bytes of a text, so that a digit's position is a byte position. An odd
  number of bytes is reported before any digit is looked at; after that the first
  byte that is no digit decides.
-/

namespace StakeRelay

/-- A sequence of bytes. -/
abbrev Bytes := List UInt8

namespace Hex

/-! ## §1. Digits -/

/-- The lower-case digit of a value below sixteen. -/
def digit (n : Nat) : Char :=
  if n < 10 then Char.ofNat (48 + n) else Char.ofNat (87 + n)

/-- The value of a hexadecimal digit of either case, given as an ASCII byte. -/
def value? (b : UInt8) : Option Nat :=
  let n := b.toNat
  if 48 ≤ n ∧ n ≤ 57 then some (n - 48)
  else if 97 ≤ n ∧ n ≤ 102 then some (n - 87)
  else if 65 ≤ n ∧ n ≤ 70 then some (n - 55)
  else none

theorem value?_lt {b : UInt8} {v : Nat} (h : value? b = some v) : v < 16 := by
  simp only [value?] at h
  split at h
  · injection h; omega
  · split at h
    · injection h; omega
    · split at h
      · injection h; omega
      · contradiction

/-! ## §2. Writing -/

/-- The two digits of a byte. -/
def encodeByte (b : UInt8) : List Char :=
  [digit (b.toNat / 16), digit (b.toNat % 16)]

/-- The digits of a byte sequence, two for each byte. -/
def encodeChars (bs : Bytes) : List Char :=
  bs.flatMap encodeByte

/-- The digits of a byte sequence as a text. -/
def encode (bs : Bytes) : String :=
  String.ofList (encodeChars bs)

/-- The digits of a byte sequence behind `0x`. -/
def encode0x (bs : Bytes) : String :=
  "0x" ++ encode bs

theorem length_encodeChars (bs : Bytes) : (encodeChars bs).length = 2 * bs.length := by
  induction bs with
  | nil => rfl
  | cons b bs ih =>
    have h : encodeChars (b :: bs) = encodeByte b ++ encodeChars bs := rfl
    rw [h, List.length_append, ih]
    simp only [encodeByte, List.length_cons, List.length_nil]
    omega

/-! ## §3. Reading -/

/-- Why a text holds no bytes in hexadecimal. -/
inductive Fault
  /-- The number of bytes of the text is odd. -/
  | oddLength
  /-- A byte of the text is no digit. -/
  | notDigit (byte : UInt8) (position : Nat)
  deriving Repr, DecidableEq

/-- Reads digit pairs from `position` on. A last byte without a partner is `oddLength`. -/
def decodeFrom (position : Nat) : Bytes → Except Fault Bytes
  | [] => .ok []
  | [_] => .error .oddLength
  | hi :: lo :: rest =>
    match value? hi, value? lo with
    | none, _ => .error (.notDigit hi position)
    | some _, none => .error (.notDigit lo (position + 1))
    | some h, some l =>
      match decodeFrom (position + 2) rest with
      | .error fault => .error fault
      | .ok bytes => .ok (UInt8.ofNat (16 * h + l) :: bytes)

/-- The bytes that the digits of `text` spell. -/
def decode (text : Bytes) : Except Fault Bytes :=
  if text.length % 2 = 1 then .error .oddLength else decodeFrom 0 text

end Hex

end StakeRelay
