/-
  StakeRelay.Main — the inspection tool as a program.

  It reads the checkpoint's files, prints the view that its arguments ask for, and exits
  as that view does.
-/

import StakeRelay.Operator.Inspection

namespace StakeRelay

/-- The fault that an error of the system stands for. -/
def faultOfError : IO.Error → FileFault
  | .noFileOrDirectory .. => .missing
  | .invalidArgument .. => .nameTooLong
  | .inappropriateType _ code _ => if code = 20 then .notDirectory else .isDirectory
  | _ => .isDirectory

/-- The content of a file. -/
def readBytes (path : String) : IO (Except FileFault Bytes) := do
  try
    let content ← IO.FS.readBinFile path
    return .ok content.toList
  catch e => return .error (faultOfError e)

/-- What a checkpoint holds in the system's files. -/
def holdingsOf (checkpoint : DurableCheckpoint) : IO Operator.Holdings := do
  let cursor ← readBytes checkpoint.cursorPath
  let snapshot ← readBytes checkpoint.snapshotPath
  return ⟨checkpoint, checkpoint.cursorOfRead cursor, checkpoint.snapshotOfRead snapshot⟩

/-- What the user's environment gives. -/
def placesOfEnvironment : IO UserPlaces := do
  let home ← IO.getEnv "HOME"
  let dataHome ← IO.getEnv "XDG_DATA_HOME"
  return ⟨home.getD "", dataHome⟩

end StakeRelay

open StakeRelay in
/-- Runs the inspection tool. -/
def main (args : List String) : IO UInt32 := do
  let places ← placesOfEnvironment
  let inquiry := Operator.Inquiry.ofArguments args
  let ending ← match inquiry.checkpoint? places with
    | none => pure inquiry.plainEnding
    | some (checkpoint, view) => do
      let holdings ← holdingsOf checkpoint
      pure (holdings.ending view)
  IO.print ending.output
  match ending.complaint with
  | some complaint => IO.eprintln complaint
  | none => if ending.exit = 2 then IO.eprintln "error: invalid arguments, try '--help'"
  return UInt32.ofNat ending.exit
