/-
  StakeRelay.Text.Split — texts as stretches between separators.
-/

namespace StakeRelay.Text

/-- One character more in front of the first stretch. -/
def lengthenFirst (c : Char) : List (List Char) → List (List Char)
  | [] => [[c]]
  | first :: others => (c :: first) :: others

/-- The stretches between separators, one more than there are separators. -/
def splitAt (separator : Char) (cs : List Char) : List (List Char) :=
  cs.foldr (fun c stretches =>
    if c = separator then [] :: stretches else lengthenFirst c stretches) [[]]

end StakeRelay.Text
