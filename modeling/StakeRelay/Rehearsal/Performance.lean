/-
  StakeRelay.Rehearsal.Performance — runs of a follower in a rehearsed world.

  The world changes while the follower runs: right before a reading of the head or a log
  query of a given number, and at given times. Time is counted in milliseconds from the
  start of the run and moves only while the follower waits. Readings of the head beyond a
  limit are answered by a given failure and not counted by the source.
-/

import StakeRelay.Rehearsal.Setup

namespace StakeRelay.Rehearsal

/-! ## §1. Cues -/

/-- What a cue counts. -/
inductive CuePoint
  | reading
  | query
  deriving Repr, DecidableEq

/-- Changes right before a reading of the head or a log query. -/
structure Cue where
  point : CuePoint
  /-- The number of the reading or query, counted from one. -/
  number : Nat
  setups : List Setup
  deriving Repr, DecidableEq

/-- Changes at a time. -/
structure Moment where
  time : Nat
  setups : List Setup
  deriving Repr, DecidableEq

/-- How a follower is run. -/
structure Plan where
  start : UInt64
  /-- Whether the start is the cursor, if that is further. -/
  resume : Bool
  confirmations : UInt64
  retryLimit : UInt32
  interval : UInt64
  /-- How many readings of the head are answered by the source. -/
  readings : Nat
  /-- The answer to every reading beyond them. -/
  beyond : Failure
  /-- Whether the stop signal is raised from the start. -/
  stopped : Bool
  /-- How often the follower is run. -/
  times : Nat
  cues : List Cue
  moments : List Moment
  deriving Repr, DecidableEq

/-! ## §2. Answers during a run -/

/-- The world during a run. -/
structure Stage where
  world : World
  now : Nat
  /-- How often the head was read. -/
  readings : Nat
  /-- How many log queries there were. -/
  queries : Nat
  /-- The moments ahead, the next one first. -/
  ahead : List Moment
  deriving Repr, DecidableEq

namespace Stage

/-- The changes that belong before a reading or query. -/
def cued (p : Plan) (point : CuePoint) (number : Nat) : List Setup :=
  (p.cues.filter fun c => c.point = point ∧ c.number = number).flatMap (·.setups)

/-- The stage after changes to its world. -/
def applyAll (s : Stage) (setups : List Setup) : Stage :=
  { s with world := s.world.applyAll setups }

/-- The answer of the stage's world. -/
def answerWorld (r : Request) (s : Stage) : r.Reply × Stage :=
  let (reply, world) := World.answer r s.world
  (reply, { s with world := world })

/-- The stage after a wait. Moments that come to pass during it change the world. -/
def wait (s : Stage) (milliseconds : UInt64) : Stage :=
  let acts := s.ahead.map fun m => (m.time, signalEvents m.setups)
  let deadline := s.now + min milliseconds.toNat Wait.longest
  let w := s.world.signal.wait deadline s.now acts
  let world := s.world.applyAll ((s.ahead.take w.passed).flatMap (·.setups))
  { s with
    world := { world with signal := w.signal }
    now := w.ended
    ahead := s.ahead.drop w.passed }

/-- The answer to a question during a run. -/
def answer (p : Plan) : Answering Stage
  | .source .head, s =>
    let s := { s with readings := s.readings + 1 }
    if p.readings < s.readings then (.error p.beyond, s)
    else (s.applyAll (cued p .reading s.readings)).answerWorld (.source .head)
  | .source (.logs filter), s =>
    let s := { s with queries := s.queries + 1 }
    (s.applyAll (cued p .query s.queries)).answerWorld (.source (.logs filter))
  | .wait milliseconds, s => ((), s.wait milliseconds)
  | r, s => s.answerWorld r

end Stage

/-! ## §3. Runs -/

/-- What came of a run. -/
structure Performance where
  start : UInt64
  /-- The phase before the first run. -/
  before : Phase
  /-- How each run ended. -/
  outcomes : List (Except Failure Unit)
  follower : Follower
  /-- How often the head was read. -/
  readings : Nat
  /-- The time at the end. -/
  elapsed : Nat
  deriving Repr

/-- Runs a follower several times, one after another. A round reads the head once or is
    the last of its run, so the rounds suffice. -/
def runRepeatedly (p : Plan) : Nat → Follower → Stage →
    (List (Except Failure Unit) × Follower) × Stage
  | 0, f, s => (([], f), s)
  | n + 1, f, s =>
    let (run, s) := (f.run (p.readings + 2)).run (Stage.answer p) s
    let ((outcomes, f), s) := runRepeatedly p n run.follower s
    ((run.outcome.toList ++ outcomes, f), s)

/-- Performs a plan in a world. -/
def perform (p : Plan) (w : World) : Except Failure Performance × World :=
  let start : Attempt UInt64 := if p.resume then Follower.resumeHeight p.start else pure p.start
  match start.run.run World.answer w with
  | (.error failure, w) => (.error failure, w)
  | (.ok start, w) =>
    let f := Follower.ofSettings ⟨start, p.confirmations, p.retryLimit, p.interval⟩
      w.scanner w.schedule
    let moments := p.moments.map fun m => { m with time := min m.time Wait.longest }
    let ahead := moments.mergeSort fun a b => decide (a.time ≤ b.time)
    let stage : Stage := ⟨{ w with signal := .initial p.stopped }, 0, 0, 0, ahead⟩
    let ((outcomes, follower), stage) := runRepeatedly p p.times f stage
    (.ok ⟨start, f.phase, outcomes, follower, stage.readings, stage.now⟩, stage.world)

end StakeRelay.Rehearsal
