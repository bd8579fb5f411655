/-
  StakeRelay.Operator.Status — where a checkpoint stands in its epoch.

  The next boundary is the first one at or behind the cursor. An epoch length of zero
  counts as one. A boundary beyond the greatest height is that height.
-/

import StakeRelay.Json.Basic
import StakeRelay.Number.Saturating

namespace StakeRelay.Operator

/-- A summary of a checkpoint. -/
structure Status where
  /-- The next height to process. -/
  cursor : UInt64
  /-- How many records the snapshot has. -/
  size : Nat
  /-- How many of them are active. -/
  active : Nat
  epochLength : UInt64
  /-- The epoch in which the cursor lies. -/
  epoch : UInt64
  nextBoundary : UInt64
  /-- How far the next boundary is. -/
  distance : UInt64
  deriving Repr, DecidableEq

namespace Status

/-- The first boundary at or behind a height. -/
def boundaryFrom (cursor epochLength : UInt64) : UInt64 :=
  if cursor % epochLength = 0 then cursor
  -- the sum cannot wrap: with a remainder the length is above one
  else Saturating.mul (cursor / epochLength + 1) epochLength

/-- The summary of a checkpoint with a cursor and a snapshot of some size. -/
def ofCheckpoint (cursor : UInt64) (size active : Nat) (epochLength : UInt64) : Status :=
  let epochLength := max epochLength 1
  let nextBoundary := boundaryFrom cursor epochLength
  { cursor := cursor
    size := size
    active := active
    epochLength := epochLength
    epoch := cursor / epochLength
    nextBoundary := nextBoundary
    distance := nextBoundary - min cursor nextBoundary }

/-- The summary as a JSON object. -/
def toJson (s : Status) : Json :=
  .object [
    ("cursor", .ofNat s.cursor.toNat),
    ("snapshot_size", .ofNat s.size),
    ("active_stakers", .ofNat s.active),
    ("epoch_length", .ofNat s.epochLength.toNat),
    ("epoch", .ofNat s.epoch.toNat),
    ("next_boundary", .ofNat s.nextBoundary.toNat),
    ("blocks_to_boundary", .ofNat s.distance.toNat)]

/-- The summary as lines of text, with the places of the files. -/
def lines (s : Status) (cursorPath snapshotPath : String) : List String := [
  "StakeWatch v0.1.0",
  "",
  "Checkpoint",
  "----------",
  s!"  Cursor file:    {cursorPath}",
  s!"  Snapshot file:  {snapshotPath}",
  s!"  Next block:     {s.cursor}",
  s!"  Snapshot:       {s.size} stakers ({s.active} active)",
  s!"  Epoch:          {s.epoch} (length {s.epochLength})",
  s!"  Next boundary:  {s.nextBoundary} ({s.distance} blocks away)"]

end Status

end StakeRelay.Operator
