/-
  StakeRelay.Service.Launch — how the relay service starts and what it runs.

  Settings that cannot be read are replaced by the standard ones. A snapshot file among
  the arguments counts more than the setting. Then everything that can be wrong with the
  settings is found before the checkpoint is read, and the checkpoint is read before the
  first look at a chain. The follower starts at the cursor, or at the set height if that
  is further.
-/

import StakeRelay.Chain.Node
import StakeRelay.Service.Arguments
import StakeRelay.Settings.Check

namespace StakeRelay

/-- What is fixed before the service talks to anyone. -/
structure Launch where
  settings : Settings
  scanner : Scanner
  schedule : Schedule
  /-- Whether the chains are simulated. -/
  simulated : Bool
  deriving Repr, DecidableEq

namespace Launch

/-- The settings of a start, given the content of the settings file, if there is one. -/
def settingsOf (args : ServiceArguments) (content : Option Bytes) : Settings :=
  let settings :=
    match Settings.ofContent content with
    | .ok settings => settings
    | .error _ => .standard
  match args.snapshotFile with
  | some file => { settings with snapshotFile := some file }
  | none => settings

/-- Refuses settings that cannot drive the service. -/
def ofSettings (settings : Settings) (simulated : Bool) : Except Failure Launch := do
  settings.check simulated
  let contract ← settings.contract
  let schedule ← settings.schedule
  if simulated then pure () else discard (Node.connect settings.sourceUrl contract)
  return ⟨settings, settings.scanner contract, schedule, simulated⟩

/-- The follower that starts at a height. -/
def follower (l : Launch) (start : UInt64) : Follower :=
  .ofSettings (l.settings.followerSettings start) l.scanner l.schedule

/-- The service: reads the cursor and follows the chain for at most the given number of
    rounds. -/
def service (l : Launch) (rounds : Nat) : Attempt Follower.Run := do
  let start ← Follower.resumeHeight l.settings.start
  ExceptT.lift ((l.follower start).run rounds)

end Launch

end StakeRelay
