/-
  StakeRelay.Staker.Registry — the records of the source chain's staker registry.

  A walk visits every `stride`-th index below the registry's size. An entry that cannot
  be read is left out; only the size has to be known. The next index is a saturating
  sum, and since an index below the size is below the greatest word, every step moves
  on and the walk ends.
-/

import StakeRelay.Dialogue
import StakeRelay.Number.Saturating

namespace StakeRelay

/-- How a registry is walked. -/
structure Walk where
  stride : UInt64
  stride_pos : 0 < stride
  deriving DecidableEq

namespace Walk

instance : Repr Walk := ⟨fun w n => reprPrec w.stride n⟩

/-- The walk with the given stride. -/
def ofStride (stride : UInt64) : Except Failure Walk :=
  if h : 0 < stride then .ok ⟨stride, h⟩ else .error (.config .walkStride)

/-- The walk that visits every index. -/
def full : Walk := ⟨1, by decide⟩

/-- Reads the entry at an index. -/
def readEntry (index : UInt64) : Attempt StakerRecord := do
  let staker ← Attempt.source (.stakerAt index)
  let balance ← Attempt.source (.stakerInfo staker)
  return StakerRecord.ofAddress staker balance

theorem toNat_lt_next {w : Walk} {index size : UInt64} (h : index < size) :
    index.toNat < (Saturating.add index w.stride).toNat := by
  have hs := w.stride_pos
  rw [UInt64.lt_iff_toNat_lt] at h hs
  rw [Saturating.toNat_add]
  have := size.toNat_lt
  have h0 : (0 : UInt64).toNat = 0 := rfl
  omega

/-- The records of the readable entries from `index` on. -/
def visit (w : Walk) (size index : UInt64) : Dialogue (List StakerRecord) :=
  if _h : index < size then do
    let entry ← (readEntry index).run
    let rest ← visit w size (Saturating.add index w.stride)
    match entry with
    | .ok record => return record :: rest
    | .error _ => return rest
  else return []
termination_by size.toNat - index.toNat
decreasing_by
  have := toNat_lt_next (w := w) _h
  rw [UInt64.lt_iff_toNat_lt] at _h
  omega

/-- The records of the readable entries that the walk visits. -/
def build (w : Walk) : Attempt (List StakerRecord) := do
  let size ← Attempt.source .registrySize
  ExceptT.lift (w.visit size 0)

end Walk

end StakeRelay
