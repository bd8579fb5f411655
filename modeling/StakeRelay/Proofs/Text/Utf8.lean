/-
  StakeRelay.Proofs.Text.Utf8 — ASCII texts are read as they were written.

  A character below 128 is one byte, and that byte is a whole piece. Lossy reading gives
  such a text back.

  Main statement: `decodeLossyChars_encodeChars`.
-/

import StakeRelay.Text.Utf8

namespace StakeRelay.Utf8

/-- A character below 128. -/
def IsAscii (c : Char) : Prop := c.toNat < 128

theorem encodeChar_of_isAscii {c : Char} (h : IsAscii c) :
    String.utf8EncodeChar c = [UInt8.ofNat c.toNat] := by
  unfold String.utf8EncodeChar
  have small : c.val.toNat ≤ 0x7f := Nat.le_of_lt_succ h
  simp only
  rw [if_pos small]
  rfl

theorem next_of_isAscii {c : Char} (h : IsAscii c) (rest : Bytes) :
    next (UInt8.ofNat c.toNat) rest = (some c, rest) := by
  have small : c.toNat < 128 := h
  have value : (UInt8.ofNat c.toNat).toNat = c.toNat := by
    rw [UInt8.toNat_ofNat']
    omega
  unfold next lead?
  simp only [value]
  rw [if_pos small]
  simp only [continuation, Char.ofNat_toNat]

theorem pieces_cons_isAscii {c : Char} (h : IsAscii c) (rest : Bytes) :
    pieces (UInt8.ofNat c.toNat :: rest) = some c :: pieces rest := by
  rw [pieces, next_of_isAscii h]

/-- ASCII characters (`IsAscii`) are read as they were written. -/
theorem decodeLossyChars_encodeChars {cs : List Char} (ascii : ∀ c ∈ cs, IsAscii c) :
    decodeLossyChars (encodeChars cs) = cs := by
  unfold decodeLossyChars
  induction cs with
  | nil =>
    rw [show encodeChars [] = [] from rfl, pieces]
    rfl
  | cons c cs ih =>
    have first := ascii c List.mem_cons_self
    have later := ih fun c member => ascii c (List.mem_cons_of_mem _ member)
    unfold encodeChars at later ⊢
    rw [List.flatMap_cons, encodeChar_of_isAscii first, List.singleton_append,
      pieces_cons_isAscii first, List.map_cons, later]
    rfl

end StakeRelay.Utf8
