/-
  StakeRelay.Deposit.OpenEpoch — the deposits since the last flush.

  Each height is taken in at most once: the mark is the height taken in last, and a
  height that does not exceed it changes nothing. Emptying keeps the mark, so a height
  that is scanned again after a flush is not taken in a second time.
-/

import StakeRelay.Staker.Record

namespace StakeRelay

/-- The deposit records that wait for the next boundary. -/
structure OpenEpoch where
  /-- The records, in the order of their heights. -/
  records : List StakerRecord
  /-- The height taken in last. -/
  mark : Option UInt64
  deriving Repr, DecidableEq

namespace OpenEpoch

/-- Nothing taken in yet. -/
def fresh : OpenEpoch := ⟨[], none⟩

/-- Whether a height is still to be taken in. -/
def accepts (e : OpenEpoch) (height : UInt64) : Bool :=
  match e.mark with
  | none => true
  | some mark => decide (mark < height)

/-- Takes in the records of a height, unless that height has been passed. -/
def absorb (e : OpenEpoch) (height : UInt64) (records : List StakerRecord) : OpenEpoch :=
  if e.accepts height then ⟨e.records ++ records, some height⟩ else e

/-- Drops the records and keeps the mark. -/
def emptied (e : OpenEpoch) : OpenEpoch := { e with records := [] }

theorem absorb_of_accepts {e : OpenEpoch} {height : UInt64} (records : List StakerRecord)
    (h : e.accepts height = true) : e.absorb height records = ⟨e.records ++ records, some height⟩ :=
  if_pos h

theorem absorb_of_not_accepts {e : OpenEpoch} {height : UInt64} (records : List StakerRecord)
    (h : e.accepts height = false) : e.absorb height records = e := by
  rw [absorb, h]; rfl

end OpenEpoch

end StakeRelay
