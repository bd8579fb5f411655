/-
  StakeRelay.Settings.Check — whether settings can drive the relay.

  The numbers and the event signature matter always. Endpoints and the contract matter
  only when real chains are followed. Of several faults the first one in the order of
  `check` is reported.
-/

import StakeRelay.Account.Reading
import StakeRelay.Checkpoint.Places
import StakeRelay.Settings.Basic

namespace StakeRelay.Settings

/-- Whether a text is empty or holds blanks only. -/
def isBlankText (s : String) : Bool := Text.trim s = ""

/-- The contract; the zero address when none is set. -/
def contract (s : Settings) : Except Failure Address :=
  if isBlankText s.contractText then .ok .zero
  else
    match Address.parseFault s.contractText with
    | .ok contract => .ok contract
    | .error fault => .error (.config (.contract s.contractText fault))

/-- Refuses settings that cannot drive the relay. With `simulated` the chains are not
    real ones. -/
def check (s : Settings) (simulated : Bool) : Except Failure Unit :=
  if s.epochLength = 0 then .error (.config .epochLength)
  else if s.registryStride = 0 then .error (.config .registryStride)
  else if s.retryLimit = 0 then .error (.config .retryLimit)
  else if isBlankText s.eventSignature then .error (.config .eventSignature)
  else if simulated then .ok ()
  else if s.sourceUrl = "" ∨ s.destinationUrl = "" then .error (.config .endpoints)
  else if isBlankText s.contractText then .error (.config .contractUnset)
  else s.contract.map fun _ => ()

/-! ## §1. What the settings stand for -/

/-- The checkpoint's files. -/
def checkpoint (s : Settings) (places : UserPlaces) : DurableCheckpoint where
  cursorPath := (s.cursorFile.map places.expand).getD places.checkpoint.cursorPath
  snapshotPath := (s.snapshotFile.map places.expand).getD places.checkpoint.snapshotPath

/-- The parameters of a follower that starts at a height. -/
def followerSettings (s : Settings) (start : UInt64) : FollowerSettings :=
  ⟨start, s.confirmations, s.retryLimit, s.interval⟩

/-- The schedule. -/
def schedule (s : Settings) : Except Failure Schedule := do
  Schedule.ofLength s.epochLength (← Walk.ofStride s.registryStride)

/-- The scanner of a contract's deposits. -/
def scanner (s : Settings) (contract : Address) : Scanner :=
  Scanner.ofSignature contract s.eventSignature

end StakeRelay.Settings
