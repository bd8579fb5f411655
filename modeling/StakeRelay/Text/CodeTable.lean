/-
  StakeRelay.Text.CodeTable — tables of characters, written as texts.

  A table is a text of words. In a table of ranges a word is a code point or the first
  and the last of several, with a hyphen between them. In a table of entries a word with
  an equals sign at its end is the code point to which the next word belongs; every
  further word belongs to the next code point. Such a word holds the code points of an
  entry, with dots between them. All numbers are hexadecimal.
-/

import StakeRelay.Text.Ascii
import StakeRelay.Text.Split

namespace StakeRelay.CodeTable

open Text (splitAt)

/-- The words of a table. -/
def words (table : String) : List (List Char) :=
  (splitAt ' ' (table.toList.map fun c => if c = '\n' then ' ' else c)).filter (· ≠ [])

/-- The code point that digits spell. -/
def point (digits : List Char) : Nat :=
  digits.foldl (fun n c => 16 * n + (Ascii.hexValue? c).getD 0) 0

/-! ## §1. Ranges -/

/-- The first and the last code point of a word. -/
def range (word : List Char) : Nat × Nat :=
  match splitAt '-' word with
  | [first, last] => (point first, point last)
  | _ => (point word, point word)

/-- The ranges of a table. -/
def ranges (table : String) : List (Nat × Nat) := (words table).map range

/-- Whether a character lies in one of the ranges. -/
def holds (ranges : List (Nat × Nat)) (c : Char) : Bool :=
  ranges.any fun (first, last) => first ≤ c.toNat && c.toNat ≤ last

/-! ## §2. Entries -/

/-- The characters of an entry. -/
def spelled (word : List Char) : List Char :=
  (splitAt '.' word).map fun digits => Char.ofNat (point digits)

/-- The entries of words, the first of which belongs to a code point. -/
def entriesFrom (next : Nat) : List (List Char) → List (Nat × List Char)
  | [] => []
  | word :: rest =>
    if word.getLast? = some '=' then entriesFrom (point word.dropLast) rest
    else (next, spelled word) :: entriesFrom (next + 1) rest

/-- The entries of a table, each with its code point. -/
def entries (table : String) : List (Nat × List Char) := entriesFrom 0 (words table)

end StakeRelay.CodeTable
