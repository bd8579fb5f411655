/-
  StakeRelay.Rehearsal.Setup — changes to the world that the relay does not make.
-/

import StakeRelay.Rehearsal.World

namespace StakeRelay.Rehearsal

/-- A change to the world. -/
inductive Setup
  /-- The head is at a height. -/
  | head (height : UInt64)
  /-- The head grows with every reading, or stays. -/
  | growing (on : Bool)
  /-- The next readings of the head fail. -/
  | failHead (count : Nat)
  /-- The next log queries fail. -/
  | failLogs (count : Nat)
  /-- The next readings of the registry's size fail. -/
  | failSize (count : Nat)
  /-- The next updates are refused. -/
  | refuseUpdates (count : Nat)
  /-- A deposit is logged, under the scanner's topic unless another is given. -/
  | deposit (height : UInt64) (staker : Address) (value periods : UInt64) (topic : Option Word)
  /-- An entry is logged; a topic that is not given is the scanner's. -/
  | log (height : UInt64) (topics : List (Option Word)) (data : Bytes)
  | register (staker : Address) (balance : Amount)
  | unregister (staker : Address)
  /-- The registry refuses an index. -/
  | refuseIndex (index : UInt64)
  /-- The store in memory refuses cursors, or takes them. -/
  | refuseCursors (on : Bool)
  /-- The store in memory refuses snapshots, or takes them. -/
  | refuseSnapshots (on : Bool)
  /-- The stop signal's sender acts. -/
  | signal (event : SignalEvent)
  /-- A file has this content. -/
  | putFile (path : String) (content : Bytes)
  | removeFile (path : String)
  | makeDirectory (path : String)
  | disturb (disturbance : Disturbance)
  deriving Repr, DecidableEq

namespace World

/-- The world with a change to its source. -/
def mapSource (w : World) (f : SimulatedSource → SimulatedSource) : World :=
  { w with source := f w.source }

/-- The world with a change to its store, if that is in memory. -/
def mapVolatile (w : World) (f : VolatileCheckpoint → VolatileCheckpoint) : World :=
  match w.store with
  | .volatile checkpoint => { w with store := .volatile (f checkpoint) }
  | .durable _ => w

/-- The path of a file that the rehearsal names. -/
def place (w : World) (path : String) : String := Path.join w.directory path

/-- The files with a content at a path, and with the directories above it. -/
def putFile (w : World) (path : String) (content : Bytes) : FileSystem :=
  let path := w.place path
  let files := (w.files.makeDirectories ((Path.parent? path).getD "")).2
  (files.write path content).2

/-- The world after a change. -/
def apply (w : World) : Setup → World
  | .head height => w.mapSource fun s => { s with head := height }
  | .growing on => w.mapSource fun s => { s with growing := on }
  | .failHead count => w.mapSource fun s => { s with headOutages := count }
  | .failLogs count => w.mapSource fun s => { s with logOutages := count }
  | .failSize count => w.mapSource fun s => { s with sizeOutages := count }
  | .refuseUpdates count => { w with destination := { w.destination with refusals := count } }
  | .deposit height staker value periods topic =>
    w.mapSource (·.push (DepositEvent.toLog (topic.getD w.scanner.topic) height staker value periods))
  | .log height topics data =>
    w.mapSource (·.push ⟨height, topics.map (·.getD w.scanner.topic), data⟩)
  | .register staker balance => w.mapSource (·.register staker balance)
  | .unregister staker => w.mapSource (·.unregister staker)
  | .refuseIndex index =>
    w.mapSource fun s => { s with refusedIndices := index :: s.refusedIndices }
  | .refuseCursors on => w.mapVolatile fun c => { c with refusesCursors := on }
  | .refuseSnapshots on => w.mapVolatile fun c => { c with refusesSnapshots := on }
  | .signal event => { w with signal := w.signal.after event }
  | .putFile path content => { w with files := w.putFile path content }
  | .removeFile path => { w with files := (w.files.removeFile (w.place path)).2 }
  | .makeDirectory path => { w with files := (w.files.makeDirectories (w.place path)).2 }
  | .disturb d =>
    { w with disturbances := d :: w.disturbances.filter (·.channel ≠ d.channel) }

/-- The world after changes, one after another. -/
def applyAll (w : World) (setups : List Setup) : World := setups.foldl apply w

end World

/-- What the sender of the stop signal does among changes. -/
def signalEvents (setups : List Setup) : List SignalEvent :=
  setups.filterMap fun
    | .signal event => some event
    | _ => none

end StakeRelay.Rehearsal
