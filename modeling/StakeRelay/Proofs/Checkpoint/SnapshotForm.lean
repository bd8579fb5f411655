/-
  StakeRelay.Proofs.Checkpoint.SnapshotForm — a written snapshot is read again.

  Each record is a whole item of bounded size, so the walk through a written snapshot
  finds its records one by one, and each of them is read as it was written.

  Main statements:
    * `decodeRecord_encodeRecord` — a record is read as it was written;
    * `decode_written` — so is a snapshot.
-/

import StakeRelay.Checkpoint.SnapshotForm
import StakeRelay.Proofs.Rlp.Item

namespace StakeRelay.SnapshotForm

variable {r : StakerRecord}

/-! ## §1. The size of a record -/

theorem toNat_lt (b : Bool) : b.toNat < 256 ^ 1 := by
  cases b <;> decide

theorem lockedBalance_lt (r : StakerRecord) : r.lockedBalance.val < 256 ^ 16 := by
  have := r.lockedBalance.isLt
  omega

theorem workCount_lt (r : StakerRecord) : r.workCount.toNat < 256 ^ 4 := by
  have := r.workCount.toNat_lt
  omega

/-- The `fields` of a record take 78 bytes at most. -/
theorem length_fields_le (r : StakerRecord) : (fields r).flatten.length ≤ 78 := by
  have key := r.identity.length_eq
  have address := r.workBase.length_eq
  have flag := BigEndian.length_minimal_le (toNat_lt r.isActive)
  have locked := BigEndian.length_minimal_le (lockedBalance_lt r)
  have work := BigEndian.length_minimal_le (workCount_lt r)
  have identity := Rlp.length_encodeData_le (show r.identity.bytes.length ≤ 55 by omega)
  have workBase := Rlp.length_encodeData_le (show r.workBase.bytes.length ≤ 55 by omega)
  have flag' := Rlp.length_encodeData_le (Nat.le_trans flag (by decide))
  have locked' := Rlp.length_encodeData_le (Nat.le_trans locked (by decide))
  have work' := Rlp.length_encodeData_le (Nat.le_trans work (by decide))
  simp only [fields, Rlp.encodeNumber, List.flatten_cons, List.flatten_nil, List.length_append,
    List.length_nil]
  omega

/-- So a record takes 80 bytes at most, with the header of its list. -/
theorem length_encodeRecord_le (r : StakerRecord) : (encodeRecord r).length ≤ 80 := by
  have fields := length_fields_le r
  have := Rlp.length_encodeList_le (SnapshotForm.fields r) (k := 1) (by omega)
  unfold encodeRecord
  omega

/-- A record is a `Whole` item. -/
theorem whole_encodeRecord (r : StakerRecord) : Rlp.Whole (encodeRecord r) := by
  have := length_fields_le r
  exact Rlp.whole_encodeList (by omega)

/-- So is each of its `fields`. -/
theorem whole_fields (r : StakerRecord) : ∀ item ∈ fields r, Rlp.Whole item := by
  have locked := BigEndian.length_minimal_le (lockedBalance_lt r)
  have work := BigEndian.length_minimal_le (workCount_lt r)
  have flag := BigEndian.length_minimal_le (toNat_lt r.isActive)
  intro item member
  simp only [fields, Rlp.encodeNumber, List.mem_cons, List.not_mem_nil, or_false] at member
  rcases member with rfl | rfl | rfl | rfl | rfl
  all_goals refine Rlp.whole_encodeData ?_
  · rw [r.identity.length_eq]
    decide
  · rw [r.workBase.length_eq]
    decide
  all_goals omega

/-! ## §2. Reading what was written -/

@[simp] theorem ofRlp_ok {α : Type} (a : α) : ofRlp (.ok a) = .ok a := rfl

/-- The flag of a record is read as it was written. -/
@[simp] theorem activity_toNat (b : Bool) : activity b.toNat = .ok b := by
  cases b <;> rfl

/-- So is its `identity`. -/
@[simp] theorem ofBytes_identity (k : AccountId) : AccountId.ofBytes k.bytes = .ok k := by
  unfold AccountId.ofBytes AccountId.ofBytes?
  rw [dif_pos k.length_eq]

/-- So is its `workBase`. -/
@[simp] theorem ofBytes_workBase (a : Address) : Address.ofBytes a.bytes = .ok a := by
  unfold Address.ofBytes Address.ofBytes?
  rw [dif_pos a.length_eq]

/-- So is a `balance`, which is written in the fewest bytes (`BigEndian.minimal`). -/
@[simp] theorem balance_minimal (a : Amount) : balance (BigEndian.minimal a.val) = .ok a := by
  have size := BigEndian.length_minimal_le (k := 16) (n := a.val) (by have := a.isLt; omega)
  unfold balance Amount.ofNat
  rw [if_neg (by omega), BigEndian.value_minimal, dif_pos a.isLt]
  rfl

/-- A `Consistent` record, whose key is the one of its address, is read as it was written. -/
theorem decodeRecord_encodeRecord (consistent : r.Consistent) :
    decodeRecord (encodeRecord r) = .ok r := by
  have size := length_fields_le r
  have items : Rlp.listItems (encodeRecord r) = .ok (fields r) :=
    Rlp.listItems_encodeList (by omega) (whole_fields r)
  have locked := BigEndian.length_minimal_le (lockedBalance_lt r)
  -- the walk through the record gives its five items, and each of them its own value
  have identity : Rlp.data (Rlp.encodeData r.identity.bytes) = .ok r.identity.bytes :=
    Rlp.data_encodeData (by rw [r.identity.length_eq]; decide)
  have workBase : Rlp.data (Rlp.encodeData r.workBase.bytes) = .ok r.workBase.bytes :=
    Rlp.data_encodeData (by rw [r.workBase.length_eq]; decide)
  have held : Rlp.data (Rlp.encodeNumber r.lockedBalance.val) =
      .ok (BigEndian.minimal r.lockedBalance.val) := Rlp.data_encodeData (by omega)
  have flag := Rlp.number_encodeNumber (toNat_lt r.isActive) (by decide)
  have work := Rlp.number_encodeNumber (workCount_lt r) (by decide)
  unfold decodeRecord
  simp only [items, fields, ofRlp_ok, bind, Except.bind, identity, workBase, flag, work, held,
    activity_toNat, ofBytes_identity, ofBytes_workBase, balance_minimal]
  unfold StakerRecord.ofParts
  rw [UInt32.ofNat_toNat]
  exact if_pos consistent

/-- And so are any number of them, through `decodeItems`. -/
theorem decodeItems_encodeRecord {records : List StakerRecord}
    (consistent : ∀ r ∈ records, r.Consistent) :
    decodeItems (records.map encodeRecord) = .ok records := by
  induction records with
  | nil => rfl
  | cons r rest ih =>
    have first := decodeRecord_encodeRecord (consistent r List.mem_cons_self)
    have later := ih fun r member => consistent r (List.mem_cons_of_mem _ member)
    rw [List.map_cons]
    unfold decodeItems
    rw [first, later]
    rfl

/-- A snapshot that has a byte form from which it can be read again. -/
def Storable (records : List StakerRecord) : Prop :=
  (∀ r ∈ records, r.Consistent) ∧ (encode records).length < 2 ^ 64

/-- The payload of a snapshot is shorter than the snapshot, so it is within `2 ^ 64` bytes too. -/
theorem payload_lt {records : List StakerRecord} (small : (encode records).length < 2 ^ 64) :
    (records.map encodeRecord).flatten.length < 2 ^ 64 := by
  unfold encode Rlp.encodeList at small
  rw [List.length_append] at small
  omega

/-- `Rlp.listItems` of a snapshot are its records. -/
theorem listItems_encode {records : List StakerRecord}
    (small : (encode records).length < 2 ^ 64) :
    Rlp.listItems (encode records) = .ok (records.map encodeRecord) := by
  refine Rlp.listItems_encodeList (payload_lt small) fun item member => ?_
  obtain ⟨r, -, rfl⟩ := List.mem_map.mp member
  exact whole_encodeRecord r

/-- A `Storable` snapshot is read as it was written: `decode (encode records) = .ok records`. -/
theorem decode_written {records : List StakerRecord} (storable : Storable records) :
    decode (encode records) = .ok records := by
  obtain ⟨consistent, small⟩ := storable
  unfold decode
  rw [listItems_encode small]
  exact decodeItems_encodeRecord consistent

/-! ## §3. The size of a snapshot -/

/-- The records of a snapshot take `80 * records.length` bytes at most. -/
theorem length_records_le (records : List StakerRecord) :
    (records.map encodeRecord).flatten.length ≤ 80 * records.length := by
  induction records with
  | nil => exact Nat.le_refl 0
  | cons r rest ih =>
    have := length_encodeRecord_le r
    -- 80 is 78 bytes of fields and a header of at most two
    rw [List.map_cons, List.flatten_cons, List.length_append, List.length_cons]
    omega

/-- Consistent records are `Storable` as long as they are few enough for `2 ^ 64` bytes. -/
theorem storable_of_length {records : List StakerRecord} (consistent : ∀ r ∈ records, r.Consistent)
    (few : 80 * records.length + 9 < 2 ^ 64) : Storable records := by
  have size := length_records_le records
  have := Rlp.length_encodeList_le (records.map encodeRecord) (k := 8) (by omega)
  refine ⟨consistent, ?_⟩
  unfold encode
  omega

/-! ## §4. Faults of a snapshot -/

/-- A failure of a checkpoint's own: its storage refuses, or what it holds cannot be read. -/
inductive OwnFailure : Failure → Prop
  | storage (fault : StorageFault) : OwnFailure (.storage fault)
  | decode (fault : DecodeFault) : OwnFailure (.decode fault)

/-- A failure of the checkpoint's own is not `isTransient`. -/
theorem OwnFailure.fatal {failure : Failure} (own : OwnFailure failure) :
    failure.isTransient = false := by
  cases own <;> rfl

/-- Every failure of this outcome is the checkpoint's own, and so none that may pass. -/
def Lasting {α : Type} (e : Except Failure α) : Prop :=
  ∀ failure, e = .error failure → OwnFailure failure

/-- Every failure of this outcome is a fault of the bytes that were read. -/
def FaultsOfForm {α : Type} (e : Except Failure α) : Prop :=
  ∀ failure, e = .error failure → ∃ fault, failure = .decode fault

section FaultsOfForm

variable {α β : Type}

theorem faultsOfForm_ok (a : α) : FaultsOfForm (.ok a) := nofun

theorem faultsOfForm_error (fault : DecodeFault) :
    FaultsOfForm (.error (.decode fault) : Except Failure α) := by
  intro failure given
  cases given
  exact ⟨fault, rfl⟩

/-- Reading in two steps, `e >>= f`, fails by the form of the bytes if each step does. -/
theorem FaultsOfForm.bind {e : Except Failure α} {f : α → Except Failure β}
    (first : FaultsOfForm e) (rest : ∀ a, FaultsOfForm (f a)) : FaultsOfForm (e >>= f) := by
  cases e with
  | error failure =>
    intro failure' given
    cases given
    exact first failure rfl
  | ok a => exact rest a

theorem faultsOfForm_mapError (e : Except DecodeFault α) : FaultsOfForm (e.mapError .decode) := by
  cases e with
  | error fault => exact faultsOfForm_error fault
  | ok a => exact faultsOfForm_ok a

theorem faultsOfForm_ofRlp (e : Except Rlp.Fault α) : FaultsOfForm (ofRlp e) := by
  cases e with
  | error fault => exact faultsOfForm_error _
  | ok a => exact faultsOfForm_ok a

end FaultsOfForm

/-- `decodeRecord` fails by the form of the bytes only. -/
theorem faultsOfForm_decodeRecord (item : Bytes) : FaultsOfForm (decodeRecord item) := by
  -- the five items are read first, then each is held against what it stands for
  refine (faultsOfForm_ofRlp _).bind fun items => ?_
  split
  · refine (faultsOfForm_ofRlp _).bind fun _ => ?_
    refine (faultsOfForm_ofRlp _).bind fun _ => ?_
    refine (faultsOfForm_ofRlp _).bind fun _ => ?_
    refine (faultsOfForm_ofRlp _).bind fun _ => ?_
    refine (faultsOfForm_ofRlp _).bind fun _ => ?_
    refine FaultsOfForm.bind ?activity fun _ => FaultsOfForm.bind ?identity fun _ =>
      FaultsOfForm.bind ?workBase fun _ => FaultsOfForm.bind ?balance fun _ => ?record
    case activity =>
      unfold activity
      repeat' split
      · exact faultsOfForm_ok _
      · exact faultsOfForm_ok _
      · exact faultsOfForm_error _
    case identity =>
      unfold AccountId.ofBytes
      split
      · exact faultsOfForm_ok _
      · exact faultsOfForm_error _
    case workBase =>
      unfold Address.ofBytes
      split
      · exact faultsOfForm_ok _
      · exact faultsOfForm_error _
    case balance =>
      unfold balance
      split
      · exact faultsOfForm_error _
      · exact faultsOfForm_mapError _
    case record =>
      unfold StakerRecord.ofParts
      split
      · exact faultsOfForm_ok _
      · exact faultsOfForm_error _
  · exact faultsOfForm_error _

/-- So does `decodeItems`. -/
theorem faultsOfForm_decodeItems (items : List Bytes) : FaultsOfForm (decodeItems items) := by
  induction items with
  | nil => exact faultsOfForm_ok _
  | cons item rest ih =>
    exact (faultsOfForm_decodeRecord item).bind fun _ => ih.bind fun _ => faultsOfForm_ok _

/-- And `decode`: what is no snapshot is refused as malformed, and for no other reason. -/
theorem faultsOfForm_decode (bs : Bytes) : FaultsOfForm (decode bs) := by
  unfold decode
  split
  · exact faultsOfForm_error _
  · exact faultsOfForm_decodeItems _

/-- Such a failure is `Lasting`: the bytes do not become a snapshot by being read again. -/
theorem lasting_decode_snapshot (bs : Bytes) : Lasting (decode bs) := by
  intro failure given
  obtain ⟨fault, rfl⟩ := faultsOfForm_decode bs failure given
  exact .decode fault

end StakeRelay.SnapshotForm
