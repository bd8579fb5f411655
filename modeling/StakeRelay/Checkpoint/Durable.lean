/-
  StakeRelay.Checkpoint.Durable — a checkpoint that is kept in two files.

  The cursor file holds a height in decimal, the snapshot file a snapshot in its byte
  form. A missing or blank cursor file reads as height zero, a missing or empty snapshot
  file as the empty snapshot.

  A file is replaced by writing a sibling first and moving it into place, so a reader
  sees the old content or the new one. Nothing joins the two files.
-/

import StakeRelay.Checkpoint.FileSystem
import StakeRelay.Checkpoint.SnapshotForm
import StakeRelay.Dialogue
import StakeRelay.Text.Blank

namespace StakeRelay

/-- The paths of a checkpoint's files. -/
structure DurableCheckpoint where
  cursorPath : String
  snapshotPath : String
  deriving Repr, DecidableEq

namespace DurableCheckpoint

/-- The name of a cursor file, unless another is chosen. -/
def cursorName : String := "latest_block"

/-- The name of a snapshot file, unless another is chosen. -/
def snapshotName : String := "stake_info.rlp"

/-- The checkpoint in a directory. -/
def inDirectory (directory : String) : DurableCheckpoint :=
  ⟨Path.join directory cursorName, Path.join directory snapshotName⟩

/-! ## §1. The content of the files -/

/-- The height in the content of a cursor file. -/
def cursorOfContent (path : String) (content : Bytes) : Except Failure UInt64 :=
  let text := Text.trimChars (Utf8.decodeLossyChars content)
  if text = [] then .ok 0
  else
    match Decimal.readChars text with
    | .ok n => .ok (UInt64.ofNat n)
    | .error fault => .error (.decode (.cursorText (String.ofList text) path fault))

/-- The content of the cursor file at a height. -/
def contentOfCursor (height : UInt64) : Bytes := Utf8.encode (Decimal.write height)

/-- The snapshot in the content of a snapshot file. -/
def snapshotOfContent (content : Bytes) : Except Failure (List StakerRecord) :=
  if content = [] then .ok [] else SnapshotForm.decode content

/-! ## §2. Reading and replacing files -/

/-- What reading a file gave, or nothing if there is no such file. -/
def ifThere (path : String) : Except FileFault Bytes → Except Failure (Option Bytes)
  | .ok content => .ok (some content)
  | .error .missing => .ok none
  | .error fault => .error (.storage (.read path fault))

/-- The sibling in which a new content is written first. -/
def siblingOf (path : String) : String := Path.withSuffix path ".tmp"

/-- Makes the directory of a file, if the path names one. -/
def makeParent (fs : FileSystem) (path : String) : Except Failure Unit × FileSystem :=
  match Path.parent? path with
  | none => (.ok (), fs)
  | some parent =>
    if parent = "" then (.ok (), fs)
    else
      match fs.makeDirectories parent with
      | (.ok (), fs) => (.ok (), fs)
      | (.error fault, fs) => (.error (.storage (.makeDirectory parent fault)), fs)

/-- Gives a file a new content by way of its sibling. -/
def replace (fs : FileSystem) (path : String) (content : Bytes) : Except Failure Unit × FileSystem :=
  match makeParent fs path with
  | (.error failure, fs) => (.error failure, fs)
  | (.ok (), fs) =>
    match fs.write (siblingOf path) content with
    | (.error fault, fs) => (.error (.storage (.write (siblingOf path) fault)), fs)
    | (.ok (), fs) =>
      match fs.rename (siblingOf path) path with
      | (.error fault, fs) => (.error (.storage (.move (siblingOf path) path fault)), fs)
      | (.ok (), fs) => (.ok (), fs)

/-! ## §3. Answers -/

/-- The cursor, given what reading its file gave. -/
def cursorOfRead (c : DurableCheckpoint) (content : Except FileFault Bytes) :
    Except Failure UInt64 :=
  match ifThere c.cursorPath content with
  | .error failure => .error failure
  | .ok none => .ok 0
  | .ok (some content) => cursorOfContent c.cursorPath content

/-- The snapshot, given what reading its file gave. -/
def snapshotOfRead (c : DurableCheckpoint) (content : Except FileFault Bytes) :
    Except Failure (List StakerRecord) :=
  match ifThere c.snapshotPath content with
  | .error failure => .error failure
  | .ok none => .ok []
  | .ok (some content) => snapshotOfContent content

/-- The cursor in the files. -/
def readCursor (c : DurableCheckpoint) (fs : FileSystem) : Except Failure UInt64 :=
  c.cursorOfRead (fs.read c.cursorPath)

/-- The snapshot in the files. -/
def readSnapshot (c : DurableCheckpoint) (fs : FileSystem) : Except Failure (List StakerRecord) :=
  c.snapshotOfRead (fs.read c.snapshotPath)

/-- The answer to a question, and the files after it. -/
def answer (c : DurableCheckpoint) :
    (q : CheckpointQuery) → FileSystem → Except Failure q.Reply × FileSystem
  | .readCursor, fs => (c.readCursor fs, fs)
  | .writeCursor height, fs => replace fs c.cursorPath (contentOfCursor height)
  | .readSnapshot, fs => (c.readSnapshot fs, fs)
  | .writeSnapshot snapshot, fs => replace fs c.snapshotPath (SnapshotForm.encode snapshot)

end DurableCheckpoint

end StakeRelay
