/-
  StakeRelay.Json.Reader — JSON values from their texts.

  A text is one value with blanks around it. Strings hold no control characters, a
  number has no superfluous zeros, and an escaped half of a surrogate pair needs the
  other half behind it. Containers lie at most 127 deep.

  Each reader takes characters from the front and returns those that are left. The
  readers of values and of their parts call one another; every call takes a character
  or ends, so twice the length of the text bounds their number.
-/

import StakeRelay.Json.Basic
import StakeRelay.Text.Ascii
import StakeRelay.Text.Utf8

namespace StakeRelay.Json

open Ascii (isDigit hexValue?)

/-! ## §1. Parts -/

/-- A character that may stand between the parts of a text. -/
def isGap (c : Char) : Bool := c = ' ' || c = '\n' || c = '\t' || c = '\r'

/-- The characters behind the gap. -/
def skipGap (cs : List Char) : List Char := cs.dropWhile isGap

/-- The value of four hexadecimal digits. -/
def unit? (a b c d : Char) : Option Nat := do
  return (((← hexValue? a) * 16 + (← hexValue? b)) * 16 + (← hexValue? c)) * 16 + (← hexValue? d)

/-- The character that a letter behind a backslash stands for. -/
def escaped? : Char → Option Char
  | '\x22' => some '\x22'
  | '\\' => some '\\'
  | '/' => some '/'
  | 'b' => some '\x08'
  | 'f' => some '\x0c'
  | 'n' => some '\n'
  | 'r' => some '\r'
  | 't' => some '\t'
  | _ => none

/-- The rest of a string behind its opening quote. -/
def readString : List Char → Option (List Char × List Char)
  | [] => none
  | '\x22' :: rest => some ([], rest)
  | '\\' :: 'u' :: a :: b :: c :: d :: '\\' :: 'u' :: e :: f :: g :: h :: rest => do
    let unit ← unit? a b c d
    if 0xD800 ≤ unit ∧ unit < 0xDC00 then
      let low ← unit? e f g h
      if 0xDC00 ≤ low ∧ low < 0xE000 then
        let (s, rest) ← readString rest
        return (Char.ofNat (0x10000 + (unit - 0xD800) * 0x400 + (low - 0xDC00)) :: s, rest)
      else none
    else if 0xDC00 ≤ unit ∧ unit < 0xE000 then none
    else
      let (s, rest) ← readString ('\\' :: 'u' :: e :: f :: g :: h :: rest)
      return (Char.ofNat unit :: s, rest)
  | '\\' :: 'u' :: a :: b :: c :: d :: rest => do
    let unit ← unit? a b c d
    if 0xD800 ≤ unit ∧ unit < 0xE000 then none
    else
      let (s, rest) ← readString rest
      return (Char.ofNat unit :: s, rest)
  | '\\' :: c :: rest => do
    let c ← escaped? c
    let (s, rest) ← readString rest
    return (c :: s, rest)
  | c :: rest =>
    if c.toNat < 0x20 ∨ c = '\\' then none
    else do
      let (s, rest) ← readString rest
      return (c :: s, rest)

/-- One digit or more. -/
def readDigits (cs : List Char) : Option (List Char × List Char) :=
  match cs.takeWhile isDigit with
  | [] => none
  | digits => some (digits, cs.dropWhile isDigit)

/-- The digits before a point or an exponent. -/
def readWhole : List Char → Option (List Char × List Char)
  | '0' :: rest => some (['0'], rest)
  | cs => readDigits cs

/-- The digits behind a point, with the point. -/
def readFraction : List Char → Option (List Char × List Char)
  | '.' :: rest => (readDigits rest).map fun (digits, rest) => ('.' :: digits, rest)
  | cs => some ([], cs)

/-- An exponent with its mark and sign. -/
def readExponent : List Char → Option (List Char × List Char)
  | c :: rest =>
    if c = 'e' ∨ c = 'E' then
      match rest with
      | s :: digits =>
        if s = '+' ∨ s = '-' then
          (readDigits digits).map fun (digits, rest) => (c :: s :: digits, rest)
        else (readDigits rest).map fun (digits, rest) => (c :: digits, rest)
      | [] => none
    else some ([], c :: rest)
  | [] => some ([], [])

/-- A number. -/
def readNumber (cs : List Char) : Option (Json × List Char) := do
  let (sign, cs) := match cs with
    | '-' :: rest => (['-'], rest)
    | cs => ([], cs)
  let (whole, cs) ← readWhole cs
  let (fraction, cs) ← readFraction cs
  let (exponent, cs) ← readExponent cs
  return (.number (String.ofList (sign ++ whole ++ fraction ++ exponent)), cs)

/-! ## §2. Values -/

mutual

/-- A value, behind any gap. -/
def readValue : Nat → Nat → List Char → Option (Json × List Char)
  | 0, _, _ => none
  | fuel + 1, depth, cs =>
    match skipGap cs with
    | 'n' :: 'u' :: 'l' :: 'l' :: rest => some (.null, rest)
    | 't' :: 'r' :: 'u' :: 'e' :: rest => some (.bool true, rest)
    | 'f' :: 'a' :: 'l' :: 's' :: 'e' :: rest => some (.bool false, rest)
    | '\x22' :: rest => (readString rest).map fun (s, rest) => (.string (String.ofList s), rest)
    | '[' :: rest =>
      if depth = 0 then none
      else
        match skipGap rest with
        | ']' :: rest => some (.array [], rest)
        | rest => (readElements fuel (depth - 1) rest).map fun (vs, rest) => (.array vs, rest)
    | '\x7b' :: rest =>
      if depth = 0 then none
      else
        match skipGap rest with
        | '\x7d' :: rest => some (.object [], rest)
        | rest => (readFields fuel (depth - 1) rest).map fun (fs, rest) => (.object fs, rest)
    | rest => readNumber rest

/-- The elements of an array up to its end. -/
def readElements : Nat → Nat → List Char → Option (List Json × List Char)
  | 0, _, _ => none
  | fuel + 1, depth, cs => do
    let (v, rest) ← readValue fuel depth cs
    match skipGap rest with
    | ',' :: rest =>
      let (vs, rest) ← readElements fuel depth rest
      return (v :: vs, rest)
    | ']' :: rest => return ([v], rest)
    | _ => none

/-- The fields of an object up to its end. -/
def readFields : Nat → Nat → List Char → Option (List (String × Json) × List Char)
  | 0, _, _ => none
  | fuel + 1, depth, cs =>
    match skipGap cs with
    | '\x22' :: rest => do
      let (name, rest) ← readString rest
      match skipGap rest with
      | ':' :: rest =>
        let (v, rest) ← readValue fuel depth rest
        match skipGap rest with
        | ',' :: rest =>
          let (fs, rest) ← readFields fuel depth rest
          return ((String.ofList name, v) :: fs, rest)
        | '\x7d' :: rest => return ([(String.ofList name, v)], rest)
        | _ => none
      | _ => none
    | _ => none

end

/-- How deep containers may lie. -/
def maxDepth : Nat := 127

/-- The value that the characters spell. -/
def readChars? (cs : List Char) : Option Json :=
  match readValue (2 * cs.length + 2) maxDepth cs with
  | some (v, rest) => if skipGap rest = [] then some v else none
  | none => none

/-- The value that a text spells. -/
def read? (s : String) : Option Json := readChars? s.toList

/-- The value that the bytes of a text spell. -/
def readBytes? (bs : Bytes) : Option Json := (Utf8.decodeChars? bs).bind readChars?

end StakeRelay.Json
