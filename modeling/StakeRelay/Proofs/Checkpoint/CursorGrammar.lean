/-
  StakeRelay.Proofs.Checkpoint.CursorGrammar — what a cursor file may hold.

  Any bytes may stand in the cursor file, since others can write it. They are read as text,
  with a mark for whatever is no character, and the white space at either end is dropped. If
  nothing is left the cursor is zero. Otherwise what is left has to spell a 64-bit number, and
  the cursor is that number; there is no other number that the file could be read as.

  Main statements:
    * `DurableCheckpoint.cursorOfContent_cases` — what comes of any content;
    * `cursor_file_has_a_grammar` — which contents are read, and as which height.
-/

import StakeRelay.Proofs.Checkpoint.DurableKeeping

namespace StakeRelay

namespace DurableCheckpoint

variable {path : String} {content : Bytes} {height : UInt64}

/-- The text of a cursor file, without the white space at either end. -/
def cursorText (content : Bytes) : List Char := Text.trimChars (Utf8.decodeLossyChars content)

theorem cursorOfContent_blank (blank : cursorText content = []) :
    cursorOfContent path content = .ok 0 := if_pos blank

/-- What is left of a text that is not blank `Spells` a height, or the content is a fault. -/
theorem cursorOfContent_cases (path : String) (left : cursorText content ≠ []) :
    (∃ height : UInt64, Decimal.Spells (cursorText content) height.toNat ∧
      cursorOfContent path content = .ok height) ∨
    (∀ height : UInt64, ¬ Decimal.Spells (cursorText content) height.toNat) ∧
      ∃ fault, cursorOfContent path content =
        .error (.decode (.cursorText (String.ofList (cursorText content)) path fault)) := by
  unfold cursorText at left ⊢
  have whole : cursorOfContent path content = _ := if_neg left
  cases read : Decimal.readChars (Text.trimChars (Utf8.decodeLossyChars content)) with
  | ok n =>
    obtain ⟨spells, small⟩ := Decimal.readChars_ok_iff.mp read
    refine .inl ⟨UInt64.ofNat n, ?_, whole.trans (by rw [read])⟩
    rwa [UInt64.toNat_ofNat_of_lt' small]
  | error fault =>
    refine .inr ⟨fun height spells => ?_, fault, whole.trans (by rw [read])⟩
    cases read.symm.trans (Decimal.readChars_ok_iff.mpr ⟨spells, height.toNat_lt⟩)

theorem cursorOfContent_ok_iff (left : cursorText content ≠ []) :
    cursorOfContent path content = .ok height ↔
      Decimal.Spells (cursorText content) height.toNat := by
  rcases cursorOfContent_cases path left with ⟨known, spells, told⟩ | ⟨none, fault, told⟩
  · rw [told, Except.ok.injEq]
    constructor
    · rintro rfl
      exact spells
    · -- no text spells two heights
      intro spells'
      have first := Decimal.readChars_ok_iff.mpr ⟨spells, known.toNat_lt⟩
      have second := Decimal.readChars_ok_iff.mpr ⟨spells', height.toNat_lt⟩
      exact UInt64.toNat_inj.mp (Except.ok.inj (first.symm.trans second))
  · rw [told]
    exact iff_of_false nofun (none height)

end DurableCheckpoint

open DurableCheckpoint in
/-- The cursor file may hold anything. If its text is blank (`cursorText content = []`) the
    cursor is zero. Otherwise the cursor is a height just if the text, without the white space
    at either end, is at least one digit behind a plus sign or none, and the height is the value
    of the digits, which have to fit 64 bits (`Decimal.Spells`). Any other content is a fault of
    decoding, which tells that text and the path. What was written for a height, by
    `contentOfCursor`, is read as that height. -/
theorem cursor_file_has_a_grammar (c : DurableCheckpoint) :
    (∀ fs content, fs.read c.cursorPath = .ok content →
      (cursorText content = [] → c.readCursor fs = .ok 0) ∧
      (cursorText content ≠ [] →
        (∀ height, c.readCursor fs = .ok height ↔
          Decimal.Spells (cursorText content) height.toNat) ∧
        ((∀ height : UInt64, ¬ Decimal.Spells (cursorText content) height.toNat) →
          ∃ fault, c.readCursor fs = .error (.decode
            (.cursorText (String.ofList (cursorText content)) c.cursorPath fault))))) ∧
    (∀ fs height, fs.read c.cursorPath = .ok (contentOfCursor height) →
      c.readCursor fs = .ok height) ∧
    ∀ fs fs' height, c.answer (.writeCursor height) fs = (.ok (), fs') →
      c.readCursor fs' = .ok height := by
  have reads {fs : FileSystem} {content : Bytes} (read : fs.read c.cursorPath = .ok content) :
      c.readCursor fs = cursorOfContent c.cursorPath content := by
    unfold readCursor cursorOfRead
    rw [read]
    rfl
  refine ⟨fun fs content read => ?_, fun fs height read => ?_, fun fs fs' height wrote => ?_⟩
  · rw [reads read]
    refine ⟨cursorOfContent_blank, fun left =>
      ⟨fun height => cursorOfContent_ok_iff left, fun none => ?_⟩⟩
    rcases cursorOfContent_cases _ left with ⟨height, spells, -⟩ | ⟨-, fault⟩
    · exact absurd spells (none height)
    · exact fault
  · rw [reads read]
    exact cursorOfContent_written c.cursorPath height
  · have read := MayReplace.read (.inl wrote.symm)
    rw [reads read]
    exact cursorOfContent_written c.cursorPath height

namespace DurableCheckpoint

/-- A checkpoint in the working directory. -/
def nearby : DurableCheckpoint := ⟨cursorName, snapshotName⟩

/-- The files with the given text in the cursor file. -/
def filesWith (text : String) : FileSystem :=
  (FileSystem.empty.write cursorName (Utf8.encode text)).2

theorem read_filesWith (text : String) :
    (filesWith text).read nearby.cursorPath = .ok (Utf8.encode text) := rfl

end DurableCheckpoint

open DurableCheckpoint in
/-- A sign, leading zeros and white space that is not ASCII are read over. The least number that
    does not fit 64 bits, `2 ^ 64`, is a fault. -/
theorem spaced_cursor_is_read :
    nearby.readCursor (filesWith "\u3000+0042\n") = .ok 42 ∧
      ∃ fault, nearby.readCursor (filesWith "18446744073709551616") =
        .error (.decode (.cursorText "18446744073709551616" cursorName fault)) := by
  constructor
  · have text : cursorText (Utf8.encode "\u3000+0042\n") = ['+', '0', '0', '4', '2'] := by
      decide +kernel
    have grammar := ((cursor_file_has_a_grammar nearby).1 _ _ (read_filesWith "\u3000+0042\n")).2
    rw [text] at grammar
    exact ((grammar (List.cons_ne_nil _ _)).1 42).mpr
      ⟨['0', '0', '4', '2'], .inr rfl, List.cons_ne_nil _ _, List.all_eq_true.mp rfl, rfl⟩
  · have text : cursorText (Utf8.encode "18446744073709551616") =
        "18446744073709551616".toList := by decide +kernel
    have grammar := ((cursor_file_has_a_grammar nearby).1 _ _
      (read_filesWith "18446744073709551616")).2
    rw [text, String.ofList_toList] at grammar
    refine (grammar (by decide)).2 fun height => ?_
    rintro ⟨digits, rfl | sign, -, -, value⟩
    · have large : Nat.ofDigitChars 10 "18446744073709551616".toList 0 = 2 ^ 64 := by decide
      exact absurd height.toNat_lt (by omega)
    · have first : "18446744073709551616".toList.head? = some '+' := congrArg List.head? sign
      exact absurd first (by decide)

end StakeRelay
