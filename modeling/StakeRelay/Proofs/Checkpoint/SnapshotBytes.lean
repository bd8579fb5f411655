/-
  StakeRelay.Proofs.Checkpoint.SnapshotBytes — the bytes of a snapshot, whole and cut off.

  All the bytes that were written give the snapshot back: both passes through them find the
  records one after another and nothing behind them.

  A front of the bytes does not. Its header announces more bytes than there are, so no look
  for a record begins, and a list in which nothing is found is an empty list. A snapshot
  file that was cut off therefore reads as the empty snapshot, and not as a fault.

  Main statements:
    * `snapshot_round_trip` — what was written is read again;
    * `truncated_snapshot_reads_empty` — what was cut off reads as the empty snapshot;
    * `truncation_is_no_fault` — so a cut is not told from an empty snapshot.
-/

import StakeRelay.Checkpoint.Durable
import StakeRelay.Proofs.Checkpoint.SnapshotForm
import StakeRelay.Proofs.Rlp.Browsing

namespace StakeRelay.SnapshotForm

variable {records : List StakerRecord}

/-! ## §1. Whole snapshots -/

theorem whole_encode (small : (encode records).length < 2 ^ 64) : Rlp.Whole (encode records) :=
  Rlp.whole_encodeList (payload_lt small)

theorem consistent_of_bytes {r : StakerRecord}
    (keyed : r.identity.bytes = List.replicate 12 0 ++ r.workBase.bytes) : r.Consistent := by
  unfold StakerRecord.Consistent
  -- a key is its bytes
  cases key : r.identity with
  | mk bytes length_eq =>
    rw [key, ← AccountId.bytes_ofAddress] at keyed
    subst keyed
    rfl

/-- A snapshot of records whose keys are those of their addresses is read as it was written,
    `decode (encode records) = .ok records`, with the order and every field of its records. Both
    passes through its bytes (`Rlp.Pass`) find just the records. -/
theorem snapshot_round_trip
    (keyed : ∀ r ∈ records, r.identity.bytes = List.replicate 12 0 ++ r.workBase.bytes)
    (small : (encode records).length < 2 ^ 64) :
    decode (encode records) = .ok records ∧
      ∃ mark mark', Rlp.Pass (encode records) 0 none (records.map encodeRecord) mark ∧
        Rlp.Pass (encode records) 0 mark (records.map encodeRecord) mark' := by
  have consistent : ∀ r ∈ records, r.Consistent := fun r member =>
    consistent_of_bytes (keyed r member)
  refine ⟨decode_written ⟨consistent, small⟩, ?_⟩
  obtain ⟨counted, mark, mark', first, second, same⟩ :=
    Rlp.exists_passes (listItems_encode small)
  -- the header announces just the bytes that are there, so the first pass goes as far
  obtain ⟨h, read, total⟩ := whole_encode small []
  rw [List.append_nil] at read
  obtain rfl := same h read total
  exact ⟨mark, mark', first, second⟩

/-- The address of one byte twenty times. -/
def uniform (b : UInt8) : Address := ⟨List.replicate 20 b, List.length_replicate⟩

/-- Records at the ends of their ranges: a staker who stopped with nothing locked, and one
    with the greatest balance and the greatest work count. -/
def extremes : List StakerRecord :=
  [(StakerRecord.ofAddress (uniform 1) ⟨0, by decide⟩).stopped,
   { StakerRecord.ofAddress (uniform 2) (Fin.last _) with workCount := 0xFFFF_FFFF },
   StakerRecord.ofAddress (uniform 3) ⟨256, by decide⟩]

theorem extremes_round_trip :
    (∀ r ∈ extremes, r.identity.bytes = List.replicate 12 0 ++ r.workBase.bytes) ∧
      decode (encode extremes) = .ok extremes := by
  have keyed : ∀ r ∈ extremes, r.identity.bytes = List.replicate 12 0 ++ r.workBase.bytes := by
    decide
  have small : (encode extremes).length < 2 ^ 64 :=
    (storable_of_length (by decide) (by decide)).2
  exact ⟨keyed, (snapshot_round_trip keyed small).1⟩

/-! ## §2. Snapshots that were cut off -/

theorem isList_of_front {front : Bytes} (rest : Bytes) (some : front ≠ []) :
    Rlp.isList (front ++ rest) = Rlp.isList front := by
  cases front with
  | nil => exact absurd rfl some
  | cons b tail => rfl

/-- A front of a snapshot has no complete header, and reads as the empty snapshot, `.ok []`. -/
theorem decode_front {front rest : Bytes} (split : front ++ rest = encode records)
    (some : front ≠ []) (proper : rest ≠ []) (small : (encode records).length < 2 ^ 64) :
    decode front = .ok [] := by
  obtain ⟨fault, broken⟩ := (whole_encode small).cut split proper
  have list : Rlp.isList front = true := by
    rw [← isList_of_front rest some, split]
    exact Rlp.isList_lengthHeader Rlp.isBase_list (payload_lt small) _
  have items : Rlp.listItems front = .ok [] := by
    unfold Rlp.listItems
    rw [if_pos list, broken]
  unfold decode
  rw [items]
  rfl

/-- Wherever a snapshot is cut off, but for its very beginning, `decode` reads what is left as
    the empty snapshot; so does `readSnapshot` from a file that holds it. -/
theorem truncated_snapshot_reads_empty {front : Bytes} (cut : front <+: encode records)
    (some : front ≠ []) (proper : front ≠ encode records)
    (small : (encode records).length < 2 ^ 64) :
    decode front = .ok [] ∧
      ∀ (c : DurableCheckpoint) (fs : FileSystem), fs.read c.snapshotPath = .ok front →
        c.readSnapshot fs = .ok [] := by
  obtain ⟨rest, split⟩ := cut
  have more : rest ≠ [] := by
    rintro rfl
    rw [List.append_nil] at split
    exact proper split
  have empty := decode_front split some more small
  refine ⟨empty, fun c fs held => ?_⟩
  unfold DurableCheckpoint.readSnapshot
  rw [held]
  show (if front = [] then .ok [] else decode front) = _
  rw [if_neg some, empty]

/-- A snapshot of one staker. -/
def single : List StakerRecord := [StakerRecord.ofAddress (uniform 1) ⟨500, by decide⟩]

theorem length_single : (encode single).length = 63 := by decide +kernel

/-- The snapshot of one staker without its last byte. -/
def singleCut : Bytes := (encode single).dropLast

theorem singleCut_split : singleCut ++ [(encode single).getLast (Rlp.encodeList_ne_nil _)] =
    encode single := List.dropLast_concat_getLast _

theorem length_singleCut : singleCut.length = 62 := by
  rw [singleCut, List.length_dropLast, length_single]

theorem singleCut_ne_nil : singleCut ≠ [] := by
  intro none
  have := length_singleCut
  rw [none] at this
  cases this

theorem singleCut_ne : singleCut ≠ encode single := by
  intro same
  have := length_singleCut
  rw [same, length_single] at this
  cases this

theorem single_cut_reads_empty : singleCut <+: encode single ∧ decode singleCut = .ok [] := by
  have cut : singleCut <+: encode single := ⟨_, singleCut_split⟩
  have small : (encode single).length < 2 ^ 64 := by
    rw [length_single]
    decide
  exact ⟨cut, (truncated_snapshot_reads_empty cut singleCut_ne_nil singleCut_ne small).1⟩

/-- Not every cut through a snapshot is told to be a fault of its form (`.decode fault`). -/
theorem truncation_is_no_fault :
    ¬ ∀ (records : List StakerRecord) (front : Bytes), records ≠ [] → front <+: encode records →
      front ≠ [] → front ≠ encode records → ∃ fault, decode front = .error (.decode fault) := by
  intro told
  obtain ⟨fault, refused⟩ := told single singleCut (List.cons_ne_nil _ _) ⟨_, singleCut_split⟩
    singleCut_ne_nil singleCut_ne
  have small : (encode single).length < 2 ^ 64 := by
    rw [length_single]
    decide
  rw [decode_front singleCut_split singleCut_ne_nil (List.cons_ne_nil _ _) small] at refused
  cases refused

end StakeRelay.SnapshotForm
