/-
  StakeRelay.Proofs.Staker.Registry — what a walk finds in a registry that stands still.

  With fixed answers a walk is a selection: of the indices that it visits, those whose
  entry can be read give a record each, in the order of the walk.
-/

import StakeRelay.Staker.Registry

namespace StakeRelay

/-- A staker registry with fixed answers. -/
structure Registry where
  size : UInt64
  stakerAt : UInt64 → Except Failure Address
  stakerInfo : Address → Except Failure Amount

namespace Walk

/-- The indices from `index` on that a walk visits. -/
def indices (w : Walk) (size index : UInt64) : List UInt64 :=
  if _h : index < size then index :: w.indices size (Saturating.add index w.stride) else []
termination_by size.toNat - index.toNat
decreasing_by
  have := toNat_lt_next (w := w) _h
  rw [UInt64.lt_iff_toNat_lt] at _h
  omega

end Walk

namespace Registry

/-- The record of the entry at an index, if it can be read. -/
def record? (r : Registry) (index : UInt64) : Option StakerRecord :=
  match r.stakerAt index with
  | .error _ => none
  | .ok staker =>
    match r.stakerInfo staker with
    | .error _ => none
    | .ok balance => some (StakerRecord.ofAddress staker balance)

/-- The records from an index on that a walk finds. -/
def recordsFrom (r : Registry) (w : Walk) (index : UInt64) : List StakerRecord :=
  (w.indices r.size index).filterMap r.record?

end Registry

end StakeRelay
