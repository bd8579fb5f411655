/-
  StakeRelay.Text.Utf8 — characters as bytes and back.

  A character starts with a lead byte that fixes how many continuation bytes
  follow and in which range the first of them lies; that range keeps out overlong
  forms, surrogates and values past U+10FFFF. Where the bytes at hand stop being
  the beginning of a character, the bytes taken so far form one broken piece. Lossy
  reading puts U+FFFD for each broken piece, strict reading refuses.
-/

import StakeRelay.Text.Hex

namespace StakeRelay.Utf8

/-! ## §1. Writing -/

/-- The bytes of the characters. -/
def encodeChars (cs : List Char) : Bytes :=
  cs.flatMap String.utf8EncodeChar

/-- The bytes of a text. -/
def encode (s : String) : Bytes :=
  encodeChars s.toList

/-! ## §2. One character -/

/-- What a lead byte announces. -/
structure Lead where
  /-- Continuation bytes that follow. -/
  following : Nat
  /-- The lead byte's share of the code point. -/
  bits : Nat
  /-- Least first continuation byte. -/
  low : UInt8
  /-- Greatest first continuation byte. -/
  high : UInt8
  deriving Repr, DecidableEq

/-- What the byte announces, if it can start a character. -/
def lead? (b : UInt8) : Option Lead :=
  let n := b.toNat
  if n < 0x80 then some ⟨0, n, 0x80, 0xBF⟩
  else if n < 0xC2 then none
  else if n < 0xE0 then some ⟨1, n - 0xC0, 0x80, 0xBF⟩
  else if n = 0xE0 then some ⟨2, 0, 0xA0, 0xBF⟩
  else if n = 0xED then some ⟨2, 0xD, 0x80, 0x9F⟩
  else if n < 0xF0 then some ⟨2, n - 0xE0, 0x80, 0xBF⟩
  else if n = 0xF0 then some ⟨3, 0, 0x90, 0xBF⟩
  else if n < 0xF4 then some ⟨3, n - 0xF0, 0x80, 0xBF⟩
  else if n = 0xF4 then some ⟨3, 4, 0x80, 0x8F⟩
  else none

/-- Takes `following` continuation bytes, the first of them in the given range, and
    returns the code point together with the bytes that are left. -/
def continuation : Nat → UInt8 → UInt8 → Nat → Bytes → Option Nat × Bytes
  | 0, _, _, point, rest => (some point, rest)
  | _ + 1, _, _, _, [] => (none, [])
  | following + 1, low, high, point, b :: rest =>
    if low ≤ b ∧ b ≤ high then
      continuation following 0x80 0xBF (point * 64 + (b.toNat - 0x80)) rest
    else (none, b :: rest)

theorem length_continuation (following : Nat) (low high : UInt8) (point : Nat) (bs : Bytes) :
    (continuation following low high point bs).2.length ≤ bs.length := by
  induction bs generalizing following low high point with
  | nil => cases following <;> simp [continuation]
  | cons b rest ih =>
    cases following with
    | zero => simp [continuation]
    | succ following =>
      simp only [continuation]
      split
      · exact Nat.le_trans (ih ..) (Nat.le_succ _)
      · exact Nat.le_refl _

/-- The character, or the broken piece, that starts with `b`, and the bytes after it. -/
def next (b : UInt8) (rest : Bytes) : Option Char × Bytes :=
  match lead? b with
  | none => (none, rest)
  | some l =>
    match continuation l.following l.low l.high l.bits rest with
    | (none, rest) => (none, rest)
    | (some point, rest) => (some (Char.ofNat point), rest)

theorem length_next (b : UInt8) (rest : Bytes) : (next b rest).2.length ≤ rest.length := by
  simp only [next]
  split
  · exact Nat.le_refl _
  · rename_i l _
    have h := length_continuation l.following l.low l.high l.bits rest
    split <;> (rename_i e; rw [e] at h; exact h)

/-! ## §3. Whole texts -/

/-- The characters and broken pieces of a byte sequence, in order. -/
def pieces : Bytes → List (Option Char)
  | [] => []
  | b :: rest => (next b rest).1 :: pieces (next b rest).2
termination_by bs => bs.length
decreasing_by exact Nat.lt_succ_of_le (length_next b rest)

/-- The characters of a byte sequence, with U+FFFD for each broken piece. -/
def decodeLossyChars (bs : Bytes) : List Char :=
  (pieces bs).map (·.getD '\uFFFD')

/-- The characters of a byte sequence, if there is no broken piece. -/
def decodeChars? (bs : Bytes) : Option (List Char) :=
  (pieces bs).mapM id

/-- The text of a byte sequence, if there is no broken piece. -/
def decode? (bs : Bytes) : Option String :=
  (decodeChars? bs).map String.ofList

end StakeRelay.Utf8
