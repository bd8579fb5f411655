/-
  StakeRelay.Checkpoint.SnapshotForm — a snapshot as bytes.

  A snapshot is a list with one item for each record, in order. A record is a list of
  five items: the key (32 bytes), the address (20 bytes), the activity flag (0 or 1),
  the balance (at most 16 bytes, most significant first) and the work count (at most
  four bytes, without leading zeros).

  Reading walks the items behind the header of the outer list as long as complete items
  follow one another; the first of them that is no record fails the whole snapshot.
-/

import StakeRelay.Rlp.Item
import StakeRelay.Staker.Record

namespace StakeRelay.SnapshotForm

/-! ## §1. Writing -/

/-- The five items of a record. -/
def fields (r : StakerRecord) : List Bytes :=
  [Rlp.encodeData r.identity.bytes, Rlp.encodeData r.workBase.bytes,
   Rlp.encodeNumber r.isActive.toNat, Rlp.encodeNumber r.lockedBalance.val,
   Rlp.encodeNumber r.workCount.toNat]

/-- The bytes of a record. -/
def encodeRecord (r : StakerRecord) : Bytes := Rlp.encodeList (fields r)

/-- The bytes of a snapshot. -/
def encode (records : List StakerRecord) : Bytes := Rlp.encodeList (records.map encodeRecord)

/-! ## §2. Reading -/

/-- A fault of the encoding as a failure. -/
def ofRlp {α : Type} (e : Except Rlp.Fault α) : Except Failure α :=
  e.mapError fun fault => .decode (.rlp fault)

/-- The activity that a flag stands for. -/
def activity (flag : Nat) : Except Failure Bool :=
  if flag = 0 then .ok false
  else if flag = 1 then .ok true
  else .error (.decode (.activityFlag flag))

/-- The balance in at most sixteen bytes. -/
def balance (bs : Bytes) : Except Failure Amount :=
  if 16 < bs.length then .error (.decode (.wideBalance bs.length))
  else (Amount.ofNat (BigEndian.value bs)).mapError .decode

/-- The record in an item. All five items are read before any of them is judged. -/
def decodeRecord (item : Bytes) : Except Failure StakerRecord := do
  match ← ofRlp (Rlp.listItems item) with
  | [identity, workBase, flag, locked, work] =>
    let identity ← ofRlp (Rlp.data identity)
    let workBase ← ofRlp (Rlp.data workBase)
    let flag ← ofRlp (Rlp.number 1 flag)
    let locked ← ofRlp (Rlp.data locked)
    let work ← ofRlp (Rlp.number 4 work)
    let isActive ← activity flag
    StakerRecord.ofParts (← AccountId.ofBytes identity) (← Address.ofBytes workBase) isActive
      (← balance locked) (UInt32.ofNat work)
  | _ => .error (.decode (.rlp .itemCount))

/-- The records of the items, up to the first that is no record. -/
def decodeItems : List Bytes → Except Failure (List StakerRecord)
  | [] => .ok []
  | item :: rest => do
    let record ← decodeRecord item
    return record :: (← decodeItems rest)

/-- The snapshot in the bytes. -/
def decode (bs : Bytes) : Except Failure (List StakerRecord) :=
  match Rlp.listItems bs with
  | .error _ => .error (.decode .snapshotForm)
  | .ok items => decodeItems items

end StakeRelay.SnapshotForm
