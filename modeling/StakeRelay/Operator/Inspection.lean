/-
  StakeRelay.Operator.Inspection — what the inspection tool prints and how it ends.

  A view reads the cursor before the snapshot and stops at the first failure. The status
  view refuses an epoch length of zero before it reads anything.
-/

import StakeRelay.Checkpoint.Places
import StakeRelay.Json.Records
import StakeRelay.Operator.Arguments
import StakeRelay.Operator.Ending
import StakeRelay.Operator.Help
import StakeRelay.Operator.Status
import StakeRelay.Operator.Table

namespace StakeRelay.Operator

/-- What a checkpoint gives when it is read. -/
structure Holdings where
  checkpoint : DurableCheckpoint
  cursor : Except Failure UInt64
  snapshot : Except Failure (List StakerRecord)

namespace Holdings

/-- What a checkpoint holds in a file system. -/
def ofFiles (checkpoint : DurableCheckpoint) (fs : FileSystem) : Holdings :=
  ⟨checkpoint, checkpoint.readCursor fs, checkpoint.readSnapshot fs⟩

/-- The status view. -/
def status (h : Holdings) (epochLength : UInt64) (json : Bool) : Ending :=
  if epochLength = 0 then .complaining (Text.quote "--epoch-length must be at least 1")
  else
    match h.cursor with
    | .error f => .failure f
    | .ok cursor =>
      match h.snapshot with
      | .error f => .failure f
      | .ok snapshot =>
        let active := (snapshot.filter (·.isActive)).length
        let status := Status.ofCheckpoint cursor snapshot.length active epochLength
        if json then .success [status.toJson.pretty]
        else .success (status.lines h.checkpoint.cursorPath h.checkpoint.snapshotPath)

/-- The snapshot view. -/
def snapshotView (h : Holdings) (json : Bool) : Ending :=
  match h.snapshot with
  | .error f => .failure f
  | .ok snapshot =>
    if json then .success [(recordsToJson snapshot).pretty]
    else if snapshot.isEmpty then
      .success [s!"No snapshot committed yet ({h.checkpoint.snapshotPath})"]
    else .success (Table.ofStakers snapshot ++ ["", s!"{snapshot.length} stakers"])

/-- The end of the tool that shows a view. -/
def ending (h : Holdings) : View → Ending
  | .status epochLength json => h.status epochLength json
  | .snapshot json => h.snapshotView json

end Holdings

/-- The files that are chosen, and the usual ones in place of the others. -/
def checkpointOf (places : UserPlaces) (cursorFile snapshotFile : Option String) :
    DurableCheckpoint where
  cursorPath := cursorFile.getD places.checkpoint.cursorPath
  snapshotPath := snapshotFile.getD places.checkpoint.snapshotPath

namespace Inquiry

/-- The checkpoint and the view that are asked for, if a view is. -/
def checkpoint? (inquiry : Inquiry) (places : UserPlaces) : Option (DurableCheckpoint × View) :=
  match inquiry with
  | .view cursorFile snapshotFile chosen =>
    some (checkpointOf places cursorFile snapshotFile, chosen)
  | _ => none

/-- The end of the tool when no view is asked for. -/
def plainEnding : Inquiry → Ending
  | .help none => .success Help.tool
  | .help (some name) => .success (Help.onView name)
  | .version => .success ["stakewatch-cli 0.1.0"]
  | _ => .mistaken

end Inquiry

/-- The end of the tool that is called with some arguments. -/
def inspect (places : UserPlaces) (fs : FileSystem) (args : List String) : Ending :=
  let inquiry := Inquiry.ofArguments args
  match inquiry.checkpoint? places with
  | some (checkpoint, view) => (Holdings.ofFiles checkpoint fs).ending view
  | none => inquiry.plainEnding

end StakeRelay.Operator
