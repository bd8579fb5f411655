/-
  StakeRelay.Operator.Ending — how a program ends.

  A program that succeeds exits with 0. One that fails exits with 1 and shows why; one
  that cannot understand its arguments exits with 2.
-/

import StakeRelay.Failure

namespace StakeRelay.Operator

/-- How a program ends. -/
structure Ending where
  exit : Nat
  output : String
  /-- What the program says about why it failed. -/
  complaint : Option String
  deriving Repr, DecidableEq

namespace Ending

/-- Each line with its end. -/
def text (lines : List String) : String := String.join (lines.map (· ++ "\n"))

/-- The end of a program that succeeds. -/
def success (lines : List String) : Ending := ⟨0, text lines, none⟩

/-- The end of a program that shows why it failed. -/
def complaining (shown : String) : Ending := ⟨1, "", some ("Error: " ++ shown)⟩

/-- The end of a program that fails. -/
def failure (f : Failure) : Ending := complaining f.inspect

/-- The end of a program that cannot understand its arguments. -/
def mistaken : Ending := ⟨2, "", none⟩

end Ending

end StakeRelay.Operator
