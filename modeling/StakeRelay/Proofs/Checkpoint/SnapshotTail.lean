/-
  StakeRelay.Proofs.Checkpoint.SnapshotTail — a snapshot in front of further bytes.

  Reading does not stop where the outer list ends. The first pass begins in its payload and
  goes on from its bookmark through all bytes at hand, and so does the second. Complete
  items that stand behind the list are therefore taken for items of it.

  So further bytes are passed over just up to the first complete item among them. If all
  those items are records, they are added to the snapshot; if one of them is none, all of it
  is refused.

  Main statements:
    * `decodeRecord_written_iff` — which written record is read again;
    * `tail_is_read` — what is read of a snapshot and further bytes;
    * `tail_adds_records` — so further bytes can add records.
-/

import StakeRelay.Proofs.Checkpoint.SnapshotGrammar

namespace StakeRelay.SnapshotForm

variable {records : List StakerRecord}

/-! ## §1. Written records -/

/-- A record is read again just if its key is the one of its address (`Consistent`). -/
theorem decodeRecord_written_iff {r r' : StakerRecord} :
    decodeRecord (encodeRecord r) = .ok r' ↔ r.Consistent ∧ r = r' := by
  constructor
  · intro read
    have size := length_fields_le r
    -- a written record is an item with the five fields of the grammar
    have form : decodeRecord (itemOf [r.identity.bytes, r.workBase.bytes,
        BigEndian.minimal r.isActive.toNat, BigEndian.minimal r.lockedBalance.val,
        BigEndian.minimal r.workCount.toNat]) = .ok r' := read
    have small : (fields r).flatten.length < 2 ^ 64 := by omega
    obtain ⟨⟨-, -, keyed, -⟩, -⟩ := (decodeRecord_ok_iff (by exact small)).mp form
    have consistent := consistent_of_bytes keyed
    rw [decodeRecord_encodeRecord consistent] at read
    exact ⟨consistent, Except.ok.inj read⟩
  · rintro ⟨consistent, rfl⟩
    exact decodeRecord_encodeRecord consistent

/-- Written records in front of further `items`. -/
theorem decodeItems_written_append {records result : List StakerRecord} {items : List Bytes} :
    decodeItems (records.map encodeRecord ++ items) = .ok result ↔
      (∀ r ∈ records, r.Consistent) ∧
        ∃ more, decodeItems items = .ok more ∧ result = records ++ more := by
  induction records generalizing result with
  | nil => simp
  | cons r rest ih =>
    rw [List.map_cons, List.cons_append, decodeItems_ok_iff, List.forall₂_cons_left_iff]
    simp only [← decodeItems_ok_iff, ih, decodeRecord_written_iff, List.forall_mem_cons]
    constructor
    · rintro ⟨_, _, ⟨consistent, rfl⟩, ⟨others, more, read, rfl⟩, rfl⟩
      exact ⟨⟨consistent, others⟩, more, read, rfl⟩
    · rintro ⟨⟨consistent, others⟩, more, read, rfl⟩
      exact ⟨r, rest ++ more, ⟨consistent, rfl⟩, ⟨others, more, read, rfl⟩, rfl⟩

/-! ## §2. Further bytes -/

theorem listItems_encode_append (small : (encode records).length < 2 ^ 64) (tail : Bytes) :
    Rlp.listItems (encode records ++ tail) =
      .ok (records.map encodeRecord ++ Rlp.sequence tail) := by
  refine Rlp.listItems_encodeList_append (payload_lt small) (fun item member => ?_) tail
  obtain ⟨r, -, rfl⟩ := List.mem_map.mp member
  exact whole_encodeRecord r

theorem decode_append_ok_iff {result : List StakerRecord} {tail : Bytes}
    (small : (encode records).length < 2 ^ 64) :
    decode (encode records ++ tail) = .ok result ↔
      (∀ r ∈ records, r.Consistent) ∧
        ∃ more, decodeItems (Rlp.sequence tail) = .ok more ∧ result = records ++ more := by
  unfold decode
  rw [listItems_encode_append small]
  exact decodeItems_written_append

/-- A snapshot and further bytes are read just if the keys of its records are those of their
    addresses (`Consistent`) and the complete items at the front of those bytes, `Rlp.sequence
    tail`, are records, too; these are then added to it. So what is read is neither a fault of
    form nor the snapshot just if there is such an item. The second pass (`Rlp.Pass`) finds the
    items behind those of the list. -/
theorem tail_is_read (records : List StakerRecord) (tail : Bytes)
    (small : (encode records).length < 2 ^ 64) :
    (∀ result, decode (encode records ++ tail) = .ok result ↔
        (∀ r ∈ records, r.Consistent) ∧
          ∃ more, decodeItems (Rlp.sequence tail) = .ok more ∧ result = records ++ more) ∧
      (((∃ fault, decode (encode records ++ tail) = .error (.decode fault)) ∨
          decode (encode records ++ tail) = .ok records) ↔
        ¬ ((∀ r ∈ records, r.Consistent) ∧
          ∃ r more, decodeItems (Rlp.sequence tail) = .ok (r :: more))) ∧
      ∃ counted mark mark', Rlp.Pass (encode records ++ tail) 0 none counted mark ∧
        Rlp.Pass (encode records ++ tail) 0 mark
          (records.map encodeRecord ++ Rlp.sequence tail) mark' := by
  have taken := fun result => @decode_append_ok_iff records result tail small
  refine ⟨taken, ⟨?_, ?_⟩, ?_⟩
  · rintro harmless ⟨consistent, r, more, added⟩
    have read := (taken (records ++ r :: more)).mpr ⟨consistent, r :: more, added, rfl⟩
    rcases harmless with ⟨fault, refused⟩ | same
    · rw [read] at refused
      cases refused
    · rw [read] at same
      -- a list does not grow by nothing
      have length := congrArg List.length (Except.ok.inj same)
      rw [List.length_append, List.length_cons] at length
      omega
  · intro none
    cases read : decode (encode records ++ tail) with
    | error failure =>
      obtain ⟨fault, rfl⟩ := faultsOfForm_decode _ failure read
      exact .inl ⟨fault, rfl⟩
    | ok result =>
      obtain ⟨consistent, more, added, rfl⟩ := (taken result).mp read
      cases more with
      | nil => exact .inr (by rw [List.append_nil])
      | cons r more => exact absurd ⟨consistent, r, more, added⟩ none
  · obtain ⟨counted, mark, mark', first, second, -⟩ :=
      Rlp.exists_passes (listItems_encode_append small tail)
    exact ⟨counted, mark, mark', first, second⟩

/-- Written records are read wherever they follow one another (`Rlp.sequence`). -/
theorem decodeItems_sequence {extra : List StakerRecord} (consistent : ∀ r ∈ extra, r.Consistent) :
    decodeItems (Rlp.sequence (extra.map encodeRecord).flatten) = .ok extra := by
  have whole : ∀ item ∈ extra.map encodeRecord, Rlp.Whole item := by
    intro item member
    obtain ⟨r, -, rfl⟩ := List.mem_map.mp member
    exact whole_encodeRecord r
  rw [Rlp.sequence_flatten whole]
  exact decodeItems_encodeRecord consistent

/-- A staker who is not in the snapshot of one. -/
def stray : StakerRecord := StakerRecord.ofAddress (uniform 2) (Fin.last _)

theorem small_single : (encode single).length < 2 ^ 64 := by
  rw [length_single]
  decide

theorem consistent_single : ∀ r ∈ single, r.Consistent := by decide

theorem decodeItems_stray : decodeItems (Rlp.sequence (encodeRecord stray)) = .ok [stray] := by
  have read := @decodeItems_sequence [stray] (by decide)
  rwa [List.map_singleton, List.flatten_singleton] at read

/-- The record `stray` is read along with the snapshot. Its first byte, `0xF8`, alone is passed
    over. -/
theorem stray_is_read :
    decode (encode single ++ encodeRecord stray) = .ok (single ++ [stray]) ∧
      decode (encode single ++ [0xF8]) = .ok single := by
  have broken : Rlp.sequence [0xF8] = [] := Rlp.sequence_of_error rfl
  have nothing : decodeItems (Rlp.sequence [0xF8]) = .ok [] := by
    rw [broken]
    rfl
  constructor
  · exact ((tail_is_read single _ small_single).1 _).mpr
      ⟨consistent_single, [stray], decodeItems_stray, rfl⟩
  · exact ((tail_is_read single _ small_single).1 _).mpr
      ⟨consistent_single, [], nothing, (List.append_nil single).symm⟩

/-- Bytes behind the outer list are not always refused or passed over by `decode`. -/
theorem tail_adds_records :
    ¬ ∀ (records : List StakerRecord) (tail : Bytes), tail ≠ [] →
      (∃ fault, decode (encode records ++ tail) = .error (.decode fault)) ∨
        decode (encode records ++ tail) = .ok records := by
  intro harmless
  have read : decode (encode single ++ encodeRecord stray) = .ok (single ++ [stray]) :=
    (decode_append_ok_iff small_single).mpr ⟨consistent_single, [stray], decodeItems_stray, rfl⟩
  rcases harmless single (encodeRecord stray) (Rlp.encodeList_ne_nil _) with ⟨fault, refused⟩ | same
  · rw [read] at refused
    cases refused
  · rw [read] at same
    cases same

end StakeRelay.SnapshotForm
