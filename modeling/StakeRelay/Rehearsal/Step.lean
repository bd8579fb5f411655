/-
  StakeRelay.Rehearsal.Step — the steps of a rehearsal and what comes of them.

  A step changes the world, asks one of the relay's partners, lets one part of the relay
  do its work, or runs a follower. A step that fails leaves the world as the failure left
  it.
-/

import StakeRelay.Rehearsal.Performance

namespace StakeRelay.Rehearsal

/-- A step. -/
inductive Step
  | setup (change : Setup)
  /-- Asks the source chain. -/
  | source (query : SourceQuery)
  /-- Asks for logs under a topic, the scanner's unless another is given. -/
  | logs (first last : UInt64) (topic : Option Word)
  /-- Scans a block. -/
  | scan (height : UInt64)
  /-- Scans a block and takes its deposits into the open epoch. -/
  | scanAndAbsorb (height : UInt64)
  /-- Takes records into the open epoch. -/
  | absorb (height : UInt64) (records : List StakerRecord)
  /-- Empties the open epoch. -/
  | empty
  /-- Walks the registry. -/
  | buildRegistry
  | isBoundary (height : UInt64)
  /-- Submits the open epoch's deposits. -/
  | flush
  /-- Submits and commits the registry's top. -/
  | commitRegistry (height : UInt64)
  /-- Does the work at a boundary. -/
  | settle (height : UInt64)
  | submit (update : Update)
  /-- Asks the checkpoint. -/
  | checkpoint (query : CheckpointQuery)
  /-- Finds the height from which to go on. -/
  | resume (start : UInt64)
  /-- Replaces the walk, and then the schedule. -/
  | reconfigure (epochLength stride : Option UInt64)
  /-- Looks at the world. -/
  | look
  | run (plan : Plan)
  deriving Repr, DecidableEq

/-- What comes of a step. -/
inductive Outcome
  | nothing
  | answered (query : SourceQuery) (reply : query.Reply)
  | recalled (query : CheckpointQuery) (reply : query.Reply)
  | events (deposits : List DepositEvent)
  | accepted (yes : Bool)
  | records (records : List StakerRecord)
  | boundary (yes : Bool)
  | flushed (count : Nat)
  | committed (submitted stopped : Nat)
  | settled (report : BoundaryReport)
  | height (height : UInt64)
  | configured (epochLength stride : UInt64)
  | seen (world : World)
  | performed (performance : Performance)

namespace World

/-- The outcome of a part of the relay in a world. -/
def attempt {α : Type} (w : World) (a : Attempt α) (f : α → Outcome) :
    Except Failure Outcome × World :=
  let (result, w) := a.run.run World.answer w
  (result.map f, w)

/-- The outcome of a part of the relay that also changes the open epoch. -/
def attemptOnEpoch {α : Type} (w : World) (d : Dialogue (Except Failure α × OpenEpoch))
    (f : α → Outcome) : Except Failure Outcome × World :=
  let ((result, epoch), w) := d.run World.answer w
  (result.map f, { w with epoch := epoch })

/-- Takes records into the open epoch. -/
def absorb (w : World) (height : UInt64) (records : List StakerRecord) :
    Except Failure Outcome × World :=
  (.ok (.accepted (w.epoch.accepts height)), { w with epoch := w.epoch.absorb height records })

/-- Replaces the walk, and then the schedule. The walk stays when the schedule is refused. -/
def reconfigure (w : World) (epochLength stride : UInt64) : Except Failure Outcome × World :=
  match Walk.ofStride stride with
  | .error failure => (.error failure, w)
  | .ok walk =>
    let w := { w with walk := walk }
    match Schedule.ofLength epochLength walk with
    | .error failure => (.error failure, w)
    | .ok schedule => (.ok (.configured epochLength stride), { w with schedule := schedule })

/-- Takes a step. -/
def step (w : World) : Step → Except Failure Outcome × World
  | .setup change => (.ok .nothing, w.apply change)
  | .source query => w.attempt (Attempt.source query) (.answered query)
  | .logs first last topic =>
    let query := .logs ⟨w.scanner.contract, topic.getD w.scanner.topic, first, last⟩
    w.attempt (Attempt.source query) (.answered query)
  | .scan height => w.attempt (w.scanner.scan height) .events
  | .scanAndAbsorb height =>
    match (w.scanner.scan height).run.run World.answer w with
    | (.error failure, w) => (.error failure, w)
    | (.ok deposits, w) => w.absorb height (deposits.map DepositEvent.toRecord)
  | .absorb height records => w.absorb height records
  | .empty => (.ok .nothing, { w with epoch := w.epoch.emptied })
  | .buildRegistry => w.attempt w.walk.build .records
  | .isBoundary height => (.ok (.boundary (w.schedule.isBoundary height)), w)
  | .flush => w.attemptOnEpoch (Schedule.flush w.epoch) .flushed
  | .commitRegistry height =>
    w.attempt (w.schedule.commitRegistry height) fun (submitted, stopped) =>
      .committed submitted stopped
  | .settle height => w.attemptOnEpoch (w.schedule.settle height w.epoch) .settled
  | .submit update => w.attempt (Attempt.submit update) fun _ => .nothing
  | .checkpoint query => w.attempt (Attempt.checkpoint query) (.recalled query)
  | .resume start => w.attempt (Follower.resumeHeight start) .height
  | .reconfigure epochLength stride =>
    w.reconfigure (epochLength.getD w.schedule.epochLength) (stride.getD w.walk.stride)
  | .look => (.ok (.seen w), w)
  | .run plan =>
    let (result, w) := perform plan w
    (result.map .performed, w)

/-- Takes steps one after another. -/
def steps (w : World) : List Step → List (Except Failure Outcome) × World
  | [] => ([], w)
  | s :: rest =>
    let (outcome, w) := w.step s
    let (outcomes, w) := w.steps rest
    (outcome :: outcomes, w)

end World

/-! ## §2. Setting the scene -/

/-- How a rehearsal starts. -/
structure Scene where
  source : Scanner → SimulatedSource
  store : Store
  directory : String
  contract : Address
  signature : String
  epochLength : UInt64
  stride : UInt64

/-- The world at the start of a rehearsal. -/
def Scene.world (s : Scene) : Except Failure World := do
  let walk ← Walk.ofStride s.stride
  let schedule ← Schedule.ofLength s.epochLength walk
  let scanner := Scanner.ofSignature s.contract s.signature
  return {
    source := s.source scanner
    destination := .empty
    store := s.store
    files := (FileSystem.empty.makeDirectories s.directory).2
    directory := s.directory
    disturbances := []
    signal := .initial false
    scanner := scanner
    walk := walk
    schedule := schedule
    epoch := .fresh }

end StakeRelay.Rehearsal
