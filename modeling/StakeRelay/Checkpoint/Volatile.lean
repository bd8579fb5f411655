/-
  StakeRelay.Checkpoint.Volatile — a checkpoint that is kept in memory.

  It holds the cursor and the snapshot, remembers every accepted write in order, and can
  be told to refuse the writes of either kind.
-/

import StakeRelay.Dialogue

namespace StakeRelay

/-- A write that was accepted. -/
inductive CheckpointWrite
  /-- A snapshot with this number of records. -/
  | snapshot (size : Nat)
  /-- A cursor at this height. -/
  | cursor (height : UInt64)
  deriving Repr, DecidableEq

/-- A checkpoint in memory. -/
structure VolatileCheckpoint where
  /-- The cursor, if it was ever written. -/
  cursor : Option UInt64
  snapshot : List StakerRecord
  /-- The accepted writes, the oldest first. -/
  writes : List CheckpointWrite
  refusesCursors : Bool
  refusesSnapshots : Bool
  deriving Repr, DecidableEq

namespace VolatileCheckpoint

/-- A checkpoint that was never written. -/
def empty : VolatileCheckpoint := ⟨none, [], [], false, false⟩

/-- A checkpoint that already holds a cursor and a snapshot. -/
def holding (cursor : UInt64) (snapshot : List StakerRecord) : VolatileCheckpoint :=
  ⟨some cursor, snapshot, [], false, false⟩

/-- The answer to a question, and the checkpoint after it. A cursor that was never
    written reads as zero. -/
def answer : (q : CheckpointQuery) → VolatileCheckpoint → Except Failure q.Reply × VolatileCheckpoint
  | .readCursor, c => (.ok (c.cursor.getD 0), c)
  | .writeCursor height, c =>
    if c.refusesCursors then (.error (.storage .cursorRefused), c)
    else (.ok (), { c with cursor := some height, writes := c.writes ++ [.cursor height] })
  | .readSnapshot, c => (.ok c.snapshot, c)
  | .writeSnapshot snapshot, c =>
    if c.refusesSnapshots then (.error (.storage .snapshotRefused), c)
    else
      (.ok (),
        { c with snapshot := snapshot, writes := c.writes ++ [.snapshot snapshot.length] })

end VolatileCheckpoint

end StakeRelay
