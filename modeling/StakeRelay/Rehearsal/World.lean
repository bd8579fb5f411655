/-
  StakeRelay.Rehearsal.World — everything around the relay, in one value.

  A rehearsal runs the relay against simulated chains and a checkpoint in memory or in
  simulated files. Any channel can be disturbed: its next questions are then answered by
  a given failure and do not reach the chain behind it.
-/

import StakeRelay.Chain.Simulated
import StakeRelay.Checkpoint.Durable
import StakeRelay.Checkpoint.Volatile
import StakeRelay.Follower.Basic
import StakeRelay.Follower.StopSignal

namespace StakeRelay.Rehearsal

/-! ## §1. The world -/

/-- What can be disturbed. -/
inductive Channel
  | head
  | logs
  | registrySize
  | stakerAt
  | stakerInfo
  | submission
  deriving Repr, DecidableEq

/-- The channel of a question. -/
def Channel.ofQuery : SourceQuery → Channel
  | .head => .head
  | .logs _ => .logs
  | .registrySize => .registrySize
  | .stakerAt _ => .stakerAt
  | .stakerInfo _ => .stakerInfo

/-- A failure that stands in for the next answers on a channel. -/
structure Disturbance where
  channel : Channel
  failure : Failure
  /-- For how many answers. -/
  left : Nat
  deriving Repr, DecidableEq

/-- Where the checkpoint is kept. -/
inductive Store
  | volatile (checkpoint : VolatileCheckpoint)
  | durable (checkpoint : DurableCheckpoint)
  deriving Repr, DecidableEq

/-- Everything around the relay, and the parts of the relay that a rehearsal drives by
    hand. -/
structure World where
  source : SimulatedSource
  destination : SimulatedDestination
  store : Store
  files : FileSystem
  /-- The directory in which the rehearsal puts files. -/
  directory : String
  disturbances : List Disturbance
  signal : StopSignal
  scanner : Scanner
  walk : Walk
  schedule : Schedule
  /-- The open epoch that is driven by hand. -/
  epoch : OpenEpoch
  deriving Repr, DecidableEq

namespace World

/-! ## §2. Answers -/

/-- The failure that stands in for the next answer on a channel, if there is one, and the
    world without it. -/
def disturbed (w : World) (channel : Channel) : Option Failure × World :=
  match w.disturbances.find? (·.channel = channel) with
  | none => (none, w)
  | some d =>
    let others := w.disturbances.filter (·.channel ≠ channel)
    if d.left = 0 then (none, { w with disturbances := others })
    else (some d.failure, { w with disturbances := { d with left := d.left - 1 } :: others })

/-- The answer of the store to a question about the checkpoint. -/
def answerStore (q : CheckpointQuery) (w : World) : Except Failure q.Reply × World :=
  match w.store with
  | .volatile checkpoint =>
    let (reply, checkpoint) := checkpoint.answer q
    (reply, { w with store := .volatile checkpoint })
  | .durable checkpoint =>
    let (reply, files) := checkpoint.answer q w.files
    (reply, { w with files := files })

/-- The answer to a question. No time passes. -/
def answer : Answering World
  | .source q, w =>
    match w.disturbed (.ofQuery q) with
    | (some failure, w) => (.error failure, w)
    | (none, w) =>
      let (reply, source) := w.source.answer q
      (reply, { w with source := source })
  | .submit update, w =>
    match w.disturbed .submission with
    | (some failure, w) => (.error failure, w)
    | (none, w) =>
      let (reply, destination) := w.destination.answer update
      (reply, { w with destination := destination })
  | .checkpoint q, w => w.answerStore q
  | .stopRequested, w => (w.signal.raised, w)
  | .wait _, w => ((), w)

/-- What stands below the directory of the rehearsal, by its names from there. -/
def filesBelow (w : World) : List (List String × FileNode) :=
  let top := Path.steps w.directory
  w.files.entries.filterMap fun (place, node) =>
    if top <+: place ∧ place ≠ top then some (place.drop top.length, node) else none

end World

end StakeRelay.Rehearsal
