/-
  StakeRelay.Hostname.Domain — domains as they are written, and what they mean.

  What is written is folded and composed first. The result falls into labels at its dots.
  A label behind `xn--` is spelled in ASCII; what it spells has to be folded and composed
  already, so that no label has two spellings that are taken for different ones. No label
  starts with a mark, joiners stand where they matter, and directions are kept.
-/

import StakeRelay.Hostname.Direction
import StakeRelay.Hostname.Folding
import StakeRelay.Hostname.Joining
import StakeRelay.Hostname.Punycode
import StakeRelay.Text.Composed

namespace StakeRelay.Hostname

open Text (composed splitAt)

/-- What is written, folded and composed, if a host may be written so. -/
def folded? (cs : List Char) : Option (List Char) :=
  (cs.mapM fold?).map fun texts => composed texts.flatten

/-! ## §1. Labels -/

/-- How many characters a spelling in ASCII may have. -/
def spellingLimit : Nat := 2000

/-- How many characters a label may have, unless they are all of ASCII. -/
def labelLimit : Nat := 1000

/-- A character of ASCII. -/
def isAscii (c : Char) : Bool := c.toNat < 128

/-- Whether a label that was spelled in ASCII is what its own writing would mean. -/
def isSettled (label : List Char) : Bool :=
  label.all (fun c => isPermitted c && c ≠ '.' && !isForbiddenInDomain c) && composed label = label

/-- The label that is spelled behind `xn--`. -/
def spelled? (spelling : List Char) : Option (List Char) :=
  if spelling = [] ∨ spelling.getLast? = some '-' ∨ spellingLimit < spelling.length ∨
      !spelling.all isAscii then none
  else (Punycode.decode? spelling).filter isSettled

/-- The label that a stretch between dots means. -/
def label? : List Char → Option (List Char)
  | 'x' :: 'n' :: '-' :: '-' :: spelling => spelled? spelling
  | label => some label

/-- Whether a label may stand in a domain by itself. -/
def isLabel (label : List Char) : Bool :=
  !label.head?.any isMark && joinersMatter [] label &&
    (label.all isAscii || label.length ≤ labelLimit)

/-! ## §2. Domains -/

/-- The domain that is written, with small letters and dots of ASCII only. Labels that are
    spelled in ASCII stay so. -/
def domain? (cs : List Char) : Option (List Char) := do
  let domain ← folded? cs
  let labels ← (splitAt '.' domain).mapM label?
  if !domain.any isForbiddenInDomain && labels.all isLabel && areDirected labels then
    some domain
  else none

end StakeRelay.Hostname
