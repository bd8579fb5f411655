/-
  StakeRelay.Staker.Ranking — the stakers with the greatest locked amounts.

  Records are ranked by falling amount; records of equal amount keep the order in
  which they came. The destination is told about the first twenty.
-/

import StakeRelay.Staker.Record

namespace StakeRelay.Ranking

/-- How many stakers the destination is told about. -/
def topSize : Nat := 20

/-- Whether the first record may stand before the second. -/
def before (a b : StakerRecord) : Bool := decide (b.lockedBalance ≤ a.lockedBalance)

/-- All records by falling amount. -/
def ranked (records : List StakerRecord) : List StakerRecord := records.mergeSort before

/-- The first `n` records by falling amount. -/
def best (n : Nat) (records : List StakerRecord) : List StakerRecord :=
  (ranked records).take n

/-- The records that the destination is told about. -/
def top (records : List StakerRecord) : List StakerRecord := best topSize records

theorem length_best (n : Nat) (records : List StakerRecord) :
    (best n records).length = min n records.length := by
  rw [best, ranked, List.length_take, List.length_mergeSort]

theorem mem_of_mem_top {records : List StakerRecord} {r : StakerRecord} (member : r ∈ top records) :
    r ∈ records := List.mem_mergeSort.mp (List.mem_of_mem_take member)

end StakeRelay.Ranking
