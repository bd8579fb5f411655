/-
  StakeRelay.Follower.Basic — walking the source chain behind its head.

  A follower processes heights strictly one after another. A height is processed once
  the head is at least the given number of confirmations above it: the block is scanned,
  its deposits are taken into the open epoch, and at a boundary the epoch is settled.
  A network failure costs one retry and leaves the height as it is; processing a height
  restores the retries. Every other failure stops the follower.

  One `turn` is one round of that loop, from the look at the stop signal to the next. It
  is a dialogue, so it always ends. `turns` is any number of rounds, which need not reach
  an end; a run of the follower is `turns` with enough of them.
-/

import StakeRelay.Deposit.Scanner
import StakeRelay.Schedule

namespace StakeRelay

/-- The parameters of a follower. -/
structure FollowerSettings where
  /-- The first height to process. -/
  start : UInt64
  /-- How many blocks have to follow a height before it is processed. -/
  confirmations : UInt64
  /-- How many failures that may pass are borne at one height. -/
  retryLimit : UInt32
  /-- The pause between attempts, in milliseconds. -/
  interval : UInt64
  deriving Repr, DecidableEq

/-- The parameters unless others are given. -/
def FollowerSettings.standard : FollowerSettings := ⟨0, 10, 5, 5000⟩

/-- A follower between two rounds. -/
structure Follower where
  settings : FollowerSettings
  scanner : Scanner
  schedule : Schedule
  /-- The deposits since the last flush. -/
  epoch : OpenEpoch
  phase : Phase
  /-- The next height to process. -/
  current : UInt64
  /-- The retries left at that height. -/
  retriesLeft : UInt32
  deriving Repr, DecidableEq

/-- What a round comes to. -/
structure Turn where
  follower : Follower
  /-- How the run ends, if it does. -/
  outcome : Option (Except Failure Unit)
  /-- The boundary that was committed. -/
  committed : Option BoundaryReport

/-- The phase that is asked for, if the given one leads there. -/
def Phase.pass (source target : Phase) : Except Failure Phase :=
  if source.permits target then .ok target
  else .error (.invalidState (.transition source target))

namespace Follower

/-- The follower before its first round. -/
def ofSettings (settings : FollowerSettings) (scanner : Scanner) (schedule : Schedule) :
    Follower where
  settings := settings
  scanner := scanner
  schedule := schedule
  epoch := .fresh
  phase := .polling
  current := settings.start
  retriesLeft := settings.retryLimit

/-! ## §1. Passing from phase to phase -/

/-- The follower in another phase, if its phase leads there. -/
def enter (f : Follower) (phase : Phase) : Except Failure Follower :=
  (f.phase.pass phase).map fun phase => { f with phase := phase }

/-- The end of a run with the given outcome. -/
def stop (f : Follower) (outcome : Except Failure Unit) : Turn :=
  match f.enter .stopped with
  | .ok f => ⟨f, some outcome, none⟩
  | .error failure => ⟨f, some (.error failure), none⟩

/-- The end of a round from which the loop goes on in the given phase. -/
def goOn (f : Follower) (phase : Phase) : Turn :=
  match f.enter phase with
  | .ok f => ⟨f, none, none⟩
  | .error failure => ⟨f, some (.error failure), none⟩

/-! ## §2. One round -/

/-- The least head at which the current height is confirmed. -/
def confirmedAt (f : Follower) : UInt64 :=
  Saturating.add f.current f.settings.confirmations

/-- Scans the current height, takes in its deposits and settles the epoch at a boundary. -/
def process (f : Follower) : Dialogue (Except Failure (Option BoundaryReport) × Follower) := do
  match ← (f.scanner.scan f.current).run with
  | .error failure => return (.error failure, f)
  | .ok events =>
    let epoch := f.epoch.absorb f.current (events.map DepositEvent.toRecord)
    if f.schedule.isBoundary f.current then
      let (outcome, epoch) ← f.schedule.settle f.current epoch
      return (outcome.map some, { f with epoch := epoch })
    else return (.ok none, { f with epoch := epoch })

/-- Spends a retry on a failure that may pass, and stops on any other. -/
def retryAfter (f : Follower) (failure : Failure) : Dialogue Turn :=
  if failure.isTransient then
    let f := { f with retriesLeft := f.retriesLeft - min 1 f.retriesLeft }
    match f.enter .retryWait with
    | .error fault => return ⟨f, some (.error fault), none⟩
    | .ok f => do
      if 0 < f.retriesLeft then Dialogue.wait f.settings.interval
      return f.goOn .polling
  else return f.stop (.error failure)

/-- Processes the current height, which is confirmed. -/
def advance (f : Follower) : Dialogue Turn :=
  match f.enter .processing with
  | .error failure => return ⟨f, some (.error failure), none⟩
  | .ok f => do
    match ← f.process with
    | (.error failure, f) => f.retryAfter failure
    | (.ok committed, f) =>
      match f.enter .polling with
      | .error failure => return ⟨f, some (.error failure), committed⟩
      | .ok f =>
        return ⟨{ f with current := f.current + 1, retriesLeft := f.settings.retryLimit },
          none, committed⟩

/-- One round of the loop. -/
def turn (f : Follower) : Dialogue Turn := do
  if ← Dialogue.stopRequested then return f.stop (.ok ())
  else if f.retriesLeft = 0 then
    return f.stop (.error (.retriesExceeded f.current f.settings.retryLimit))
  else
    match ← (Attempt.source .head).run with
    | .error failure => f.retryAfter failure
    | .ok head =>
      if head < f.confirmedAt then do
        Dialogue.wait f.settings.interval
        return ⟨f, none, none⟩
      else f.advance

/-! ## §3. Runs -/

/-- How far a run came. -/
structure Run where
  follower : Follower
  /-- How the run ended, if it did. -/
  outcome : Option (Except Failure Unit)
  /-- The boundaries that were committed, the oldest first. -/
  committed : List BoundaryReport

/-- At most the given number of rounds. -/
def turns : Nat → Follower → Dialogue Run
  | 0, f => return ⟨f, none, []⟩
  | n + 1, f => do
    let t ← f.turn
    match t.outcome with
    | some outcome => return ⟨t.follower, some outcome, t.committed.toList⟩
    | none =>
      let r ← turns n t.follower
      return { r with committed := t.committed.toList ++ r.committed }

/-- A run of at most the given number of rounds. A stopped follower does not run again. -/
def run (n : Nat) (f : Follower) : Dialogue Run :=
  if f.phase = .stopped then
    return ⟨f, some (.error (.invalidState .alreadyStopped)), []⟩
  else f.turns n

/-! ## §4. Starting -/

/-- The height from which to go on: the cursor, unless the given height is further. -/
def resumeHeight (start : UInt64) : Attempt UInt64 := do
  let cursor ← Attempt.checkpoint .readCursor
  return max cursor start

end Follower

end StakeRelay
