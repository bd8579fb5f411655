/-
  StakeRelay.Schedule — the work at the end of an epoch.

  Every height that the epoch length divides is a boundary. There, in this order,
    1. the ranked deposits since the last flush are submitted and dropped,
    2. the registry is read and ranked, and those who left the committed top are found,
    3. the new top and those who left are submitted,
    4. the new top is committed, then the cursor behind the boundary.
  Nothing is dropped or committed before the submission ahead of it was accepted. The
  top is committed before the cursor: a crash between the two does the boundary again,
  against the new top. An update without records is not submitted.

  A refused submission is fatal whatever its class: `submitUpdate` turns every failure
  of the destination into a submission failure, which is never tried again.
-/

import StakeRelay.Deposit.OpenEpoch
import StakeRelay.Staker.Departure
import StakeRelay.Staker.Ranking
import StakeRelay.Staker.Registry

namespace StakeRelay

/-- The call that replaces the destination's stake records. -/
def updateCall : String := "update_stake_info"

/-- When boundaries fall and how the registry is read there. -/
@[ext] structure Schedule where
  epochLength : UInt64
  walk : Walk
  epochLength_pos : 0 < epochLength
  deriving Repr

instance : DecidableEq Schedule := fun _ _ => decidable_of_iff _ Schedule.ext_iff.symm

/-- What was done at a boundary. -/
structure BoundaryReport where
  height : UInt64
  /-- Records of the registry update. -/
  submitted : Nat
  /-- Stakers reported as stopped. -/
  stopped : Nat
  /-- Deposit records flushed. -/
  flushed : Nat
  deriving Repr, DecidableEq

/-- The line that announces a committed boundary. -/
def BoundaryReport.text (r : BoundaryReport) : String :=
  s!"epoch at block {r.height}: submitted {r.submitted} ({r.stopped} stopped), flushed {r.flushed} deposits"

namespace Schedule

/-- The schedule with the given epoch length. -/
def ofLength (epochLength : UInt64) (walk : Walk) : Except Failure Schedule :=
  if h : 0 < epochLength then .ok ⟨epochLength, walk, h⟩
  else .error (.config .scheduleLength)

/-- Whether an epoch ends at the height. -/
def isBoundary (s : Schedule) (height : UInt64) : Bool := height % s.epochLength = 0

/-! ## §1. Submitting -/

/-- A failure of the destination as a submission failure. -/
def asSubmission : Failure → Failure
  | .submission fault => .submission fault
  | failure => .submission (.reported failure.message)

/-- Submits records to the destination. -/
def submitUpdate (payload : List StakerRecord) : Attempt Unit :=
  ExceptT.mk (Dialogue.bind (Attempt.submit ⟨updateCall, payload⟩).run fun
    | .ok () => .done (.ok ())
    | .error failure => .done (.error (asSubmission failure)))

/-! ## §2. The two updates of a boundary -/

/-- Submits the ranked deposits and drops them; the number of submitted records. The
    deposits stay when the destination does not accept them. -/
def flush (e : OpenEpoch) : Dialogue (Except Failure Nat × OpenEpoch) :=
  if e.records.isEmpty then return (.ok 0, e)
  else do
    let ranked := Ranking.top e.records
    match ← (submitUpdate ranked).run with
    | .error failure => return (.error failure, e)
    | .ok () => return (.ok ranked.length, e.emptied)

/-- Brings the destination and the checkpoint up to date with the registry; the numbers
    of submitted and of stopped records. -/
def commitRegistry (s : Schedule) (height : UInt64) : Attempt (Nat × Nat) := do
  let registry ← s.walk.build
  let top := Ranking.top registry
  let committed ← Attempt.checkpoint .readSnapshot
  let stopped := Departure.departed committed top
  let payload := top ++ stopped
  if payload.isEmpty then pure () else submitUpdate payload
  Attempt.checkpoint (.writeSnapshot top)
  Attempt.checkpoint (.writeCursor (Saturating.add height 1))
  return (payload.length, stopped.length)

/-- The work at a boundary. -/
def settle (s : Schedule) (height : UInt64) (e : OpenEpoch) :
    Dialogue (Except Failure BoundaryReport × OpenEpoch) := do
  match ← flush e with
  | (.error failure, e) => return (.error failure, e)
  | (.ok flushed, e) =>
    match ← (s.commitRegistry height).run with
    | .error failure => return (.error failure, e)
    | .ok (submitted, stopped) => return (.ok ⟨height, submitted, stopped, flushed⟩, e)

end Schedule

end StakeRelay
