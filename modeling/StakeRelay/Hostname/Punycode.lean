/-
  StakeRelay.Hostname.Punycode — labels of a host that are spelled in ASCII.

  Behind the last hyphen of such a spelling stand numbers; before it, the ASCII characters
  of the label. Each number tells how far to go from one insertion to the next, where the
  places in the label are counted through for one character after another. A number is
  written with the least significant digit first, in a base that changes from digit to
  digit and adapts itself to the numbers so far.
-/

import StakeRelay.Text.Ascii

namespace StakeRelay.Hostname.Punycode

/-! ## §1. Numbers -/

/-- The value of a digit: a letter, or behind the letters a decimal digit. -/
def digit? (c : Char) : Option Nat :=
  if Ascii.isLetter c then some ((Ascii.lower c).toNat - 97)
  else if Ascii.isDigit c then some (c.toNat - 48 + 26)
  else none

/-- The digits below the threshold of their place end a number. -/
def threshold (place bias : Nat) : Nat :=
  if place ≤ bias then 1 else if bias + 26 ≤ place then 26 else place - bias

/-- What no number and no weight of a digit may reach. -/
def numberLimit : Nat := 0x1_0000_0000

/-- Adds a number to another one, and returns what follows its digits. -/
def addNumber (bias place weight sum : Nat) : List Char → Option (Nat × List Char)
  | [] => none
  | c :: rest =>
    match digit? c with
    | none => none
    | some d =>
      let sum := sum + d * weight
      let next := weight * (36 - threshold place bias)
      if numberLimit ≤ sum then none
      else if d < threshold place bias then some (sum, rest)
      else if numberLimit ≤ next then none
      else addNumber bias (place + 36) next sum rest

theorem length_addNumber {bias place weight sum : Nat} {cs : List Char} {r : Nat × List Char}
    (h : addNumber bias place weight sum cs = some r) : r.2.length < cs.length := by
  induction cs generalizing place weight sum with
  | nil => simp [addNumber] at h
  | cons c rest ih =>
    rw [addNumber] at h
    split at h
    · contradiction
    · dsimp only at h
      split at h
      · contradiction
      · split at h
        · injection h with h
          subst h
          simp
        · split at h
          · contradiction
          · exact Nat.lt_trans (ih h) (by simp)

/-- How often a number is divided before the bias is read off it, and what is left. -/
def reduce (n : Nat) : Nat × Nat :=
  if 455 < n then
    let (times, rest) := reduce (n / 35)
    (times + 1, rest)
  else (0, n)
termination_by n
decreasing_by omega

/-- The bias after a number, given the length of the label then. -/
def adapted (number length : Nat) (isFirst : Bool) : Nat :=
  let n := if isFirst then number / 700 else number / 2
  let (times, rest) := reduce (n + n / length)
  36 * times + 36 * rest / (rest + 38)

/-! ## §2. Insertions -/

/-- Inserts into a label what the digits tell, from a character and a place on. -/
def insertAll (bias code place : Nat) (label digits : List Char) : Option (List Char) :=
  match digits with
  | [] => some label
  | c :: rest =>
    match h : addNumber bias 36 1 place (c :: rest) with
    | none => none
    | some (sum, behind) =>
      let length := label.length + 1
      let code := code + sum / length
      let position := sum % length
      if code.isValidChar then
        insertAll (adapted (sum - place) length (place = 0)) code (position + 1)
          (label.insertIdx position (Char.ofNat code)) behind
      else none
termination_by digits.length
decreasing_by exact length_addNumber h

/-! ## §3. Labels -/

/-- The parts before and behind the last hyphen. A hyphen at the very start does not
    count. -/
def splitAtLastHyphen (cs : List Char) : List Char × List Char :=
  let behind := (cs.reverse.takeWhile (· ≠ '-')).reverse
  let before := cs.take (cs.length - behind.length - 1)
  if before = [] then ([], cs) else (before, behind)

/-- The label that ASCII characters spell. -/
def decode? (cs : List Char) : Option (List Char) :=
  let (label, digits) := splitAtLastHyphen cs
  insertAll 72 128 0 label digits

end StakeRelay.Hostname.Punycode
