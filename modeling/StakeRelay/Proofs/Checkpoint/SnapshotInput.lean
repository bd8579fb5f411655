/-
  StakeRelay.Proofs.Checkpoint.SnapshotInput — whatever bytes are read as a snapshot.

  A snapshot file may hold anything. Its bytes are refused as malformed, or they are read as
  records; each of these has an item of its own among the bytes, and the least one has 59: the
  key takes 33, the address 21, the three other fields one at least, and as these are more
  than 55 the list of them has a header of two.

  What was read can be written. The written form is in general not the bytes that were read,
  but it is read as the same records.

  Main statements:
    * `of_decodeRecord` — what the items of a record are;
    * `length_of_decodeRecord` — how many bytes a record takes at least;
    * `every_input_is_refused_or_normal` — what becomes of any bytes.
-/

import StakeRelay.Proofs.Checkpoint.SnapshotTail
import StakeRelay.Proofs.Rlp.Extent

namespace StakeRelay.SnapshotForm

/-! ## §1. Records -/

section Records

variable {item : Bytes} {r : StakerRecord}

/-- The items of a record are five, and the first two hold its key (`identity`) and its address
    (`workBase`). -/
theorem of_decodeRecord (read : decodeRecord item = .ok r) :
    r.Consistent ∧ ∃ identity workBase flag locked work,
      Rlp.listItems item = .ok [identity, workBase, flag, locked, work] ∧
        Rlp.data identity = .ok r.identity.bytes ∧ Rlp.data workBase = .ok r.workBase.bytes := by
  unfold decodeRecord at read
  obtain ⟨items, list, read⟩ := bind_ok_iff.mp read
  split at read
  · rename_i identity workBase flag locked work
    simp only [bind_ok_iff, ofRlp_ok_iff, identity_ok_iff, workBase_ok_iff, ofParts_ok_iff] at read
    obtain ⟨_, key, _, address, _, -, _, -, _, -, _, -, _, rfl, _, rfl, _, -, keyed, rfl⟩ := read
    exact ⟨consistent_of_bytes keyed, identity, workBase, flag, locked, work,
      ofRlp_ok_iff.mp list, key, address⟩
  · cases read

/-- A record takes 59 bytes at least, as an item that is `Complete`. -/
theorem length_of_decodeRecord (complete : Rlp.Complete item) (read : decodeRecord item = .ok r) :
    59 ≤ item.length := by
  obtain ⟨-, identity, workBase, flag, locked, work, list, key, address⟩ := of_decodeRecord read
  have part : ∀ x ∈ [identity, workBase, flag, locked, work], Rlp.Complete x :=
    (Rlp.of_listItems list).1
  have keyed := (part identity (by simp)).length_of_data key (by rw [r.identity.length_eq]; decide)
  have addressed :=
    (part workBase (by simp)).length_of_data address (by rw [r.workBase.length_eq]; decide)
  rw [r.identity.length_eq] at keyed
  rw [r.workBase.length_eq] at addressed
  have flagged := (part flag (by simp)).length_pos
  have held := (part locked (by simp)).length_pos
  have worked := (part work (by simp)).length_pos
  have fields : [identity, workBase, flag, locked, work].flatten.length =
      identity.length + (workBase.length + (flag.length + (locked.length + work.length))) := by
    simp only [List.flatten_cons, List.flatten_nil, List.length_append, List.length_nil,
      Nat.add_zero]
  have whole := complete.length_of_listItems list (by omega)
  omega

/-- Items that are read as records are as many, and take 59 bytes each. -/
theorem length_of_decodeItems {items : List Bytes} {records : List StakerRecord}
    (complete : ∀ item ∈ items, Rlp.Complete item) (read : decodeItems items = .ok records) :
    59 * records.length ≤ items.flatten.length ∧ ∀ r ∈ records, r.Consistent := by
  rw [decodeItems_ok_iff] at read
  induction read with
  | nil => exact ⟨Nat.le_refl 0, nofun⟩
  | cons first _ ih =>
    obtain ⟨here, later⟩ := List.forall_mem_cons.mp complete
    obtain ⟨others, consistent⟩ := ih later
    have size := length_of_decodeRecord here first
    rw [List.flatten_cons, List.length_append, List.length_cons]
    exact ⟨by omega, List.forall_mem_cons.mpr ⟨(of_decodeRecord first).1, consistent⟩⟩

end Records

/-! ## §2. Snapshots -/

/-- Any bytes are refused as malformed, or read as records. Those take 59 of the bytes each, and
    the key of each of them is the one of its address; and once they are written by `encode`,
    for which the bytes of a memory leave room (`bs.length < 2 ^ 63`), they are read again.
    Unless the bytes announce no list (`.snapshotForm`), both passes through them (`Rlp.Pass`)
    come to an end, and the items that the second finds lie one behind the other. -/
theorem every_input_is_refused_or_normal (bs : Bytes) :
    ((∃ fault, decode bs = .error (.decode fault)) ∨
      ∃ records, decode bs = .ok records ∧ 59 * records.length ≤ bs.length ∧
        (∀ r ∈ records, r.identity.bytes = List.replicate 12 0 ++ r.workBase.bytes) ∧
        (bs.length < 2 ^ 63 → decode (encode records) = .ok records)) ∧
      (decode bs = .error (.decode .snapshotForm) ∨
        ∃ counted items mark mark', Rlp.Pass bs 0 none counted mark ∧
          Rlp.Pass bs 0 mark items mark' ∧ items.flatten <:+: bs ∧
          decode bs = decodeItems items) := by
  cases list : Rlp.listItems bs with
  | error fault =>
    have refused : decode bs = .error (.decode .snapshotForm) := by
      unfold decode
      rw [list]
    exact ⟨.inl ⟨_, refused⟩, .inl refused⟩
  | ok items =>
    have read : decode bs = decodeItems items := by
      unfold decode
      rw [list]
    obtain ⟨complete, within⟩ := Rlp.of_listItems list
    constructor
    · cases given : decodeItems items with
      | error failure =>
        -- bytes have no storage that could refuse
        obtain ⟨fault, rfl⟩ := faultsOfForm_decodeItems items failure given
        exact .inl ⟨fault, read.trans given⟩
      | ok records =>
        obtain ⟨size, consistent⟩ := length_of_decodeItems complete given
        have many : 59 * records.length ≤ bs.length := Nat.le_trans size within.length_le
        refine .inr ⟨records, read.trans given, many, fun r member => ?_, fun small => ?_⟩
        · rw [consistent r member, AccountId.bytes_ofAddress]
        · -- 80 bytes are written for 59 that were read
          exact decode_written (storable_of_length consistent (by omega))
    · obtain ⟨counted, mark, mark', first, second, -⟩ := Rlp.exists_passes list
      exact .inr ⟨counted, items, mark, mark', first, second, within, read⟩

/-- A record behind an empty list is read, and is then written as a list of one. -/
theorem stray_is_normal :
    (encode [] ++ encodeRecord stray).length < 2 ^ 63 ∧
      decode (encode [] ++ encodeRecord stray) = .ok [stray] ∧
      decode (encode [stray]) = .ok [stray] := by
  have empty : (encode []).length = 1 := rfl
  have record := length_encodeRecord_le stray
  have small : (encode [] ++ encodeRecord stray).length < 2 ^ 63 := by
    rw [List.length_append]
    omega
  have read : decode (encode [] ++ encodeRecord stray) = .ok [stray] :=
    (decode_append_ok_iff (by omega)).mpr ⟨nofun, [stray], decodeItems_stray, rfl⟩
  rcases (every_input_is_refused_or_normal (encode [] ++ encodeRecord stray)).1 with
    ⟨fault, refused⟩ | ⟨records, read', -, -, again⟩
  · rw [read] at refused
    cases refused
  · rw [read] at read'
    cases read'
    exact ⟨small, read, again small⟩

end StakeRelay.SnapshotForm
