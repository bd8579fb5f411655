/-
  StakeRelay.Operator.Table — tables drawn with plain characters.

  A table has a header and rows of cells. A column is as wide as its widest cell, with a
  blank on both sides. Cells stand at the left. A rule stands above the header and below
  the header and every row.
-/

import StakeRelay.Staker.Record

namespace StakeRelay.Operator

namespace Table

/-- The width of each column. -/
def widths (header : List String) (rows : List (List String)) : List Nat :=
  rows.foldl (fun ws row => List.zipWith (fun w cell => max w cell.length) ws row)
    (header.map String.length)

/-- A line between rows. -/
def rule (ws : List Nat) : String :=
  "+" ++ String.join (ws.map fun w => String.ofList (List.replicate (w + 2) '-') ++ "+")

/-- A cell with its blanks. -/
def cell (w : Nat) (text : String) : String :=
  " " ++ text ++ String.ofList (List.replicate (w - text.length) ' ') ++ " |"

/-- A row of cells. -/
def row (ws : List Nat) (cells : List String) : String :=
  "|" ++ String.join (List.zipWith cell ws cells)

/-- The lines of a table. -/
def lines (header : List String) (rows : List (List String)) : List String :=
  let ws := widths header rows
  rule ws :: (header :: rows).flatMap fun cells => [row ws cells, rule ws]

/-- The header of a table of stakers. -/
def stakerHeader : List String := ["Rank", "Staker", "Locked Balance", "Active", "Work"]

/-- The cells of a staker at a position, counted from zero. -/
def stakerCells (r : StakerRecord) (position : Nat) : List String := [
  toString (position + 1),
  r.workBase.text,
  toString r.lockedBalance.val,
  if r.isActive then "yes" else "no",
  toString r.workCount.toNat]

/-- The lines of a table of stakers in the given order. -/
def ofStakers (records : List StakerRecord) : List String :=
  lines stakerHeader (records.zipIdx.map fun (r, position) => stakerCells r position)

end Table

end StakeRelay.Operator
