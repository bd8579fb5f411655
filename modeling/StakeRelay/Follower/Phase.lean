/-
  StakeRelay.Follower.Phase — what a follower is busy with.

  A follower polls the head, processes a confirmed block and polls again; after a
  failure that may pass it waits before it polls again. Every phase may end in
  `stopped`, and nothing leads out of `stopped`.
-/

namespace StakeRelay

/-- What a follower is busy with. -/
inductive Phase
  /-- Reading the head and checking the confirmation depth. -/
  | polling
  /-- Scanning a confirmed block and doing its boundary work. -/
  | processing
  /-- Backing off after a failure that may pass. -/
  | retryWait
  /-- Stopped by request, for want of retries or by a fatal failure. -/
  | stopped
  deriving Repr, DecidableEq

namespace Phase

/-- The name of a phase. -/
def text : Phase → String
  | .polling => "Polling"
  | .processing => "Processing"
  | .retryWait => "RetryWait"
  | .stopped => "Stopped"

/-- Whether a follower may pass from one phase to another. -/
def permits : Phase → Phase → Bool
  | .stopped, _ => false
  | _, .stopped => true
  | .polling, .processing => true
  | .processing, .polling => true
  | .polling, .retryWait => true
  | .processing, .retryWait => true
  | .retryWait, .polling => true
  | _, _ => false

end Phase

end StakeRelay
