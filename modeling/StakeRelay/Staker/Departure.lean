/-
  StakeRelay.Staker.Departure — stakers that a new top no longer names.

  A staker has departed when its address stands in the last committed top and not in
  the current one. Each is reported once, by its first record of the last top, marked
  as no longer staking.
-/

import StakeRelay.Staker.Record

namespace StakeRelay.Departure

/-- The first record of each address that is not among `seen`. -/
def firstOfEach (seen : List Address) : List StakerRecord → List StakerRecord
  | [] => []
  | r :: rest =>
    if r.workBase ∈ seen then firstOfEach seen rest
    else r :: firstOfEach (r.workBase :: seen) rest

/-- The stakers of `last` that `current` does not name. -/
def departed (last current : List StakerRecord) : List StakerRecord :=
  (firstOfEach [] (last.filter fun r => r.workBase ∉ current.map (·.workBase))).map
    StakerRecord.stopped

end StakeRelay.Departure
