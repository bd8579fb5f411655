/-
  StakeRelay.Proofs.Checkpoint.CursorFile — a written height is read again.

  The cursor file holds digits, so nothing is trimmed from it and no byte is broken.

  Main statement: `cursorOfContent_written`.
-/

import StakeRelay.Checkpoint.Durable
import StakeRelay.Proofs.Text.Blank
import StakeRelay.Proofs.Text.Decimal
import StakeRelay.Proofs.Text.Utf8

namespace StakeRelay

/-- What is true of digits as characters. -/
theorem Decimal.isAscii_of_isDigit {c : Char} (h : c.isDigit = true) : Utf8.IsAscii c := by
  have high := (isDigit_iff.mp h).2
  unfold Utf8.IsAscii
  omega

theorem Decimal.not_isBlank_of_isDigit {c : Char} (h : c.isDigit = true) :
    Text.isBlank c = false := by
  have range := isDigit_iff.mp h
  unfold Text.isBlank
  simp only [Bool.or_eq_false_iff, Bool.and_eq_false_iff, decide_eq_false_iff_not, beq_eq_false_iff_ne]
  omega

/-- A height that was written by `contentOfCursor` is read again. -/
theorem DurableCheckpoint.cursorOfContent_written (path : String) (height : UInt64) :
    cursorOfContent path (contentOfCursor height) = .ok height := by
  have text : Text.trimChars (Utf8.decodeLossyChars (contentOfCursor height)) =
      (Decimal.write height).toList := by
    unfold contentOfCursor Utf8.encode
    rw [Utf8.decodeLossyChars_encodeChars fun c member =>
      Decimal.isAscii_of_isDigit (Decimal.isDigit_of_mem_write member)]
    exact Text.trimChars_of_not_isBlank fun c member =>
      Decimal.not_isBlank_of_isDigit (Decimal.isDigit_of_mem_write member)
  unfold cursorOfContent
  simp only [text]
  rw [if_neg (Decimal.write_ne_nil height), Decimal.readChars_write]
  simp only [UInt64.ofNat_toNat]

/-- A written height is no snapshot: it starts with a digit, and a list with `0xC0` or more. -/
theorem DurableCheckpoint.snapshotOfContent_cursor (height : UInt64) :
    snapshotOfContent (contentOfCursor height) = .error (.decode .snapshotForm) := by
  obtain ⟨c, cs, whole⟩ := List.exists_cons_of_ne_nil (Decimal.write_ne_nil height)
  have digit : c.isDigit = true := Decimal.isDigit_of_mem_write (by rw [whole]; exact List.mem_cons_self)
  have text : contentOfCursor height = UInt8.ofNat c.toNat :: Utf8.encodeChars cs := by
    unfold contentOfCursor Utf8.encode
    rw [whole, Utf8.encodeChars, List.flatMap_cons,
      Utf8.encodeChar_of_isAscii (Decimal.isAscii_of_isDigit digit)]
    rfl
  have data : Rlp.isList (UInt8.ofNat c.toNat :: Utf8.encodeChars cs) = false := by
    have high := (Decimal.isDigit_iff.mp digit).2
    refine decide_eq_false ?_
    rw [UInt8.toNat_ofNat']
    omega
  unfold snapshotOfContent SnapshotForm.decode Rlp.listItems
  rw [text, data]
  rfl

end StakeRelay
