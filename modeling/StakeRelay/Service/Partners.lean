/-
  StakeRelay.Service.Partners — whom the service talks to when it runs without a network.

  With simulated chains the service follows the seeded source and keeps its checkpoint in
  memory; a stop is requested as soon as a given number of boundaries are committed.
  Real chains that refuse every connection fail every question; the checkpoint is then
  the one in the files.
-/

import StakeRelay.Chain.RelayEndpoint
import StakeRelay.Chain.Seeded
import StakeRelay.Checkpoint.Volatile
import StakeRelay.Operator.Ending
import StakeRelay.Service.Launch

namespace StakeRelay

/-! ## §1. Simulated chains -/

/-- Everything around a service with simulated chains. -/
structure Sandbox where
  source : SimulatedSource
  destination : SimulatedDestination
  checkpoint : VolatileCheckpoint
  deriving Repr, DecidableEq

namespace Sandbox

/-- What stands around a service when it starts. -/
def ofLaunch (l : Launch) : Sandbox where
  source := Seeded.source l.settings.start l.settings.confirmations l.scanner.topic
  destination := .empty
  checkpoint := .empty

/-- How many boundaries are committed: each one ends with a write of the cursor. -/
def committed (s : Sandbox) : Nat :=
  (s.checkpoint.writes.filter fun w => match w with
    | .cursor _ => true
    | .snapshot _ => false).length

/-- The answer to a request, where a stop is requested once `limit` boundaries are
    committed. -/
def answer (limit : Nat) : Answering Sandbox
  | .source q, s =>
    let (reply, source) := s.source.answer q
    (reply, { s with source := source })
  | .submit update, s =>
    let (reply, destination) := s.destination.answer update
    (reply, { s with destination := destination })
  | .checkpoint q, s =>
    let (reply, checkpoint) := s.checkpoint.answer q
    (reply, { s with checkpoint := checkpoint })
  | .stopRequested, s => (decide (limit ≤ s.committed), s)
  | .wait _, s => ((), s)

end Sandbox

/-! ## §2. Chains out of reach -/

/-- The answer to a request when no chain can be reached and no stop is requested. -/
def answerOutOfReach (checkpoint : DurableCheckpoint) : Answering FileSystem
  | .source q, fs => (Node.answerOf q none, fs)
  | .submit _, fs => (RelayEndpoint.answerOf none, fs)
  | .checkpoint q, fs => checkpoint.answer q fs
  | .stopRequested, fs => (false, fs)
  | .wait _, fs => ((), fs)

/-! ## §3. How the service ends -/

/-- How the service ends, and what it committed. -/
structure ServiceEnding where
  ending : Operator.Ending
  /-- The boundaries that were committed, the oldest first. -/
  committed : List BoundaryReport
  /-- Whether the service stopped because it was asked to. -/
  graceful : Bool

namespace ServiceEnding

/-- The end of a service that comes to nothing but a failure. -/
def failure (f : Failure) : ServiceEnding := ⟨.failure f, [], false⟩

/-- The end of a service, given how its dialogue ended. -/
def ofService : Except Failure Follower.Run → ServiceEnding
  | .error f => failure f
  | .ok run =>
    match run.outcome with
    | some (.error f) => ⟨.failure f, run.committed, false⟩
    | some (.ok ()) => ⟨.success [], run.committed, true⟩
    | none => ⟨.success [], run.committed, false⟩

/-- Enough rounds to commit a number of boundaries on the seeded source, where every
    round but the last processes a height. -/
def simulatedRounds (limit : Nat) (settings : Settings) : Nat :=
  (limit + 1) * settings.epochLength.toNat + 1

/-- Enough rounds to use up the retries at one height. -/
def unreachableRounds (settings : Settings) : Nat := settings.retryLimit.toNat + 1

/-- The end of a service that is started with some arguments, where no real chain can be
    reached and a stop is requested once `limit` boundaries are committed. -/
def ofStart (places : UserPlaces) (fs : FileSystem) (limit : Nat) (args : ServiceArguments) :
    ServiceEnding :=
  let content := (fs.read (places.expand args.settingsFile)).toOption
  let settings := Launch.settingsOf args content
  match Launch.ofSettings settings args.simulated with
  | .error f => failure f
  | .ok l =>
    if args.simulated then
      let service := (l.service (simulatedRounds limit settings)).run
      ofService (service.run (Sandbox.answer limit) (Sandbox.ofLaunch l)).1
    else
      let service := (l.service (unreachableRounds settings)).run
      ofService (service.run (answerOutOfReach (settings.checkpoint places)) fs).1

/-- The end of a service that is called with some arguments. -/
def ofArguments (places : UserPlaces) (fs : FileSystem) (limit : Nat) (args : List String) :
    ServiceEnding :=
  match ServiceArguments.ofArguments args with
  | .start args => ofStart places fs limit args
  | .version => ⟨.success ["stakewatch 0.1.0"], [], false⟩
  | .help => ⟨.success ["StakeWatch relay watcher"], [], false⟩
  | .mistaken => ⟨.mistaken, [], false⟩

end ServiceEnding

end StakeRelay
