/-
  StakeRelay.Text.Composed — the composed form of a text.

  A text may hold a letter with its marks as one character or as several, and marks of
  different classes in any order. The composed form is found in three steps: every
  character is taken apart as far as that goes, the marks of each character are put into
  the order of their classes, and every character is joined with what follows as far as
  that goes. A mark is joined past marks of smaller classes only.

  The text has to be free of characters that stand for others by themselves, such as
  second copies of a letter; hosts are folded first, which removes them.
-/

import StakeRelay.Text.CombiningClass
import StakeRelay.Text.Composite

namespace StakeRelay.Text

/-! ## §1. Taking apart -/

/-- The parts of a character, whose first half is taken apart at most `depth` times. -/
def parts (depth : Nat) (c : Char) : List Char :=
  match depth, halves? c with
  | depth + 1, some (a, b) => parts depth a ++ [b]
  | _, _ => [c]

/-- How often the first half of a character can be taken apart. -/
def greatestDepth : Nat := 4

/-! ## §2. Order of marks -/

/-- Puts a character before others, but behind the marks of smaller classes there. -/
def place (c : Char) : List Char → List Char
  | [] => [c]
  | d :: rest =>
    if 0 < combiningClass d ∧ combiningClass d < combiningClass c then d :: place c rest
    else c :: d :: rest

/-- The characters with the marks of each in the order of their classes. -/
def ordered (cs : List Char) : List Char := cs.foldr place []

/-! ## §3. Joining -/

/-- Joins a character, behind which these marks could not be joined, with what follows. -/
def joinFrom (c : Char) (marks : List Char) : List Char → List Char
  | [] => c :: marks
  | d :: rest =>
    let free := marks.getLast?.all fun mark => combiningClass mark < combiningClass d
    match if free then join? c d else none with
    | some joined => joinFrom joined marks rest
    | none =>
      if combiningClass d = 0 then c :: marks ++ joinFrom d [] rest
      else joinFrom c (marks ++ [d]) rest

/-- Joins every character with what follows it. -/
def joined : List Char → List Char
  | [] => []
  | c :: rest => if combiningClass c = 0 then joinFrom c [] rest else c :: joined rest

/-! ## §4. The form -/

/-- The composed form of a text. -/
def composed (cs : List Char) : List Char := joined (ordered (cs.flatMap (parts greatestDepth)))

end StakeRelay.Text
