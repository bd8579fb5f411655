/-
  StakeRelay.Toml.Reader — documents from their texts, by the rules of TOML 1.0.

  Each reader takes characters from the front and returns those that are left. Values
  contain one another at most 79 deep. The number of steps is bounded by the length of
  the text: each step takes a character or ends.
-/

import StakeRelay.Number.DoubleRange
import StakeRelay.Text.Ascii
import StakeRelay.Toml.Document

namespace StakeRelay.Toml

open Ascii

/-! ## §1. Characters and gaps -/

/-- A blank within a line. -/
def isBlank (c : Char) : Bool := c = ' ' || c = '\t'

/-- A character that may stand in a comment or a string: no control but the tab. -/
def isText (c : Char) : Bool :=
  c = '\t' || (0x20 ≤ c.toNat && c.toNat ≤ 0x7E) || 0x80 ≤ c.toNat

/-- A character of a bare key. -/
def isBare (c : Char) : Bool :=
  isLetter c || isDigit c || c = '-' || c = '_'

/-- The characters behind the blanks. -/
def skipBlanks (cs : List Char) : List Char := cs.dropWhile isBlank

/-- The characters behind a line end. -/
def lineEnd? : List Char → Option (List Char)
  | '\n' :: rest => some rest
  | '\r' :: '\n' :: rest => some rest
  | _ => none

/-- The characters behind an optional comment. -/
def skipComment : List Char → List Char
  | '#' :: rest => rest.dropWhile isText
  | cs => cs

/-- The characters behind the rest of a line, which holds at most a comment. -/
def finishLine (cs : List Char) : Option (List Char) :=
  match skipComment (skipBlanks cs) with
  | [] => some []
  | rest => lineEnd? rest

/-- The characters behind blanks, comments and line ends. -/
def skipGap : Nat → List Char → Option (List Char)
  | 0, _ => none
  | fuel + 1, cs =>
    match skipComment (skipBlanks cs) with
    | '\n' :: rest => skipGap fuel rest
    | '\r' :: '\n' :: rest => skipGap fuel rest
    | rest => some rest

/-! ## §2. Strings -/

/-- The value of so many hexadecimal digits. -/
def readHex : Nat → Nat → List Char → Option (Nat × List Char)
  | 0, n, cs => some (n, cs)
  | count + 1, n, c :: rest => do readHex count (n * 16 + (← hexValue? c)) rest
  | _ + 1, _, [] => none

/-- The character at a code point. -/
def scalar? (n : Nat) : Option Char :=
  if n < 0xD800 ∨ (0xE000 ≤ n ∧ n < 0x110000) then some (Char.ofNat n) else none

/-- The character that an escape stands for, behind its backslash. -/
def readEscape : List Char → Option (Char × List Char)
  | 'b' :: rest => some ('\x08', rest)
  | 't' :: rest => some ('\t', rest)
  | 'n' :: rest => some ('\n', rest)
  | 'f' :: rest => some ('\x0c', rest)
  | 'r' :: rest => some ('\r', rest)
  | '\x22' :: rest => some ('\x22', rest)
  | '\\' :: rest => some ('\\', rest)
  | 'u' :: rest => do
    let (n, rest) ← readHex 4 0 rest
    return (← scalar? n, rest)
  | 'U' :: rest => do
    let (n, rest) ← readHex 8 0 rest
    return (← scalar? n, rest)
  | _ => none

/-- The rest of a string within double quotes. -/
def readBasic : Nat → List Char → Option (List Char × List Char)
  | 0, _ => none
  | fuel + 1, cs =>
    match cs with
    | [] => none
    | '\x22' :: rest => some ([], rest)
    | '\\' :: rest => do
      let (c, rest) ← readEscape rest
      let (s, rest) ← readBasic fuel rest
      return (c :: s, rest)
    | c :: rest =>
      if isText c then do
        let (s, rest) ← readBasic fuel rest
        return (c :: s, rest)
      else none

/-- The rest of a string within single quotes. -/
def readLiteral (cs : List Char) : Option (List Char × List Char) :=
  let inside : Char → Bool := fun c => isText c && c ≠ '\x27'
  match cs.dropWhile inside with
  | '\x27' :: rest => some (cs.takeWhile inside, rest)
  | _ => none

/-- The characters behind blanks and line ends. -/
def skipLines : Nat → List Char → List Char
  | 0, cs => cs
  | fuel + 1, cs =>
    let cs := skipBlanks cs
    match lineEnd? cs with
    | some rest => skipLines fuel rest
    | none => cs

/-- How many quotes in front end a string of several lines, with those that still belong
    to it: a closing mark is three quotes, and two more may stand before it. -/
def closing? (quote : Char) (cs : List Char) : Option (List Char × List Char) :=
  let run := (cs.takeWhile (· = quote)).length
  if run < 3 then none
  else
    let taken := min run 5
    some (List.replicate (taken - 3) quote, cs.drop taken)

/-- The rest of a string of several lines within double quotes. -/
def readLongBasic : Nat → List Char → Option (List Char × List Char)
  | 0, _ => none
  | fuel + 1, cs =>
    match closing? '\x22' cs with
    | some (s, rest) => some (s, rest)
    | none =>
      match cs with
      | [] => none
      | '\\' :: rest =>
        match lineEnd? (skipBlanks rest) with
        | some behind => readLongBasic fuel (skipLines (fuel + 1) behind)
        | none => do
          let (c, rest) ← readEscape rest
          let (s, rest) ← readLongBasic fuel rest
          return (c :: s, rest)
      | c :: rest =>
        match lineEnd? (c :: rest) with
        | some behind => do
          let (s, rest) ← readLongBasic fuel behind
          return ('\n' :: s, rest)
        | none =>
          if isText c then do
            let (s, rest) ← readLongBasic fuel rest
            return (c :: s, rest)
          else none

/-- The rest of a string of several lines within single quotes. -/
def readLongLiteral : Nat → List Char → Option (List Char × List Char)
  | 0, _ => none
  | fuel + 1, cs =>
    match closing? '\x27' cs with
    | some (s, rest) => some (s, rest)
    | none =>
      match cs with
      | [] => none
      | c :: rest =>
        match lineEnd? (c :: rest) with
        | some behind => do
          let (s, rest) ← readLongLiteral fuel behind
          return ('\n' :: s, rest)
        | none =>
          if isText c then do
            let (s, rest) ← readLongLiteral fuel rest
            return (c :: s, rest)
          else none

/-- The characters behind a line end right behind an opening mark. -/
def skipFirstLineEnd (cs : List Char) : List Char := (lineEnd? cs).getD cs

/-- A string of any kind. -/
def readString (cs : List Char) : Option (String × List Char) :=
  let fuel := cs.length + 1
  let text (r : Option (List Char × List Char)) : Option (String × List Char) :=
    r.map fun (s, rest) => (String.ofList s, rest)
  match cs with
  | '\x22' :: '\x22' :: '\x22' :: rest => text (readLongBasic fuel (skipFirstLineEnd rest))
  | '\x22' :: rest => text (readBasic fuel rest)
  | '\x27' :: '\x27' :: '\x27' :: rest => text (readLongLiteral fuel (skipFirstLineEnd rest))
  | '\x27' :: rest => text (readLiteral rest)
  | _ => none

/-! ## §3. Numbers and moments -/

/-- Digits that may have single underscores between them. -/
def readGrouped (digit : Char → Bool) : List Char → Option (List Char × List Char)
  | [] => none
  | c :: rest => if digit c then some (go [c] rest) else none
where
  /-- Takes digits, and underscores with a digit behind, behind those in `taken`. -/
  go (taken : List Char) : List Char → List Char × List Char
    | [] => (taken.reverse, [])
    | ['_'] => (taken.reverse, ['_'])
    | '_' :: d :: rest =>
      if digit d then go (d :: taken) rest else (taken.reverse, '_' :: d :: rest)
    | c :: rest => if digit c then go (c :: taken) rest else (taken.reverse, c :: rest)

/-- The value of digits of a base. -/
def valueIn (base : Nat) (cs : List Char) : Nat :=
  cs.foldl (fun n c => n * base + (hexValue? c).getD 0) 0

/-- An optional sign. -/
def readSign : List Char → Option Char × List Char
  | '+' :: rest => (some '+', rest)
  | '-' :: rest => (some '-', rest)
  | cs => (none, cs)

/-- The digits of a decimal integer: a lone zero, or digits that do not start with one. -/
def readWhole : List Char → Option (List Char × List Char)
  | '0' :: rest => some (['0'], rest)
  | cs => readGrouped isDigit cs

/-- The integer, if it fits 64 bits with a sign. -/
def integer? (negative : Bool) (n : Nat) : Option Value :=
  if negative then if n ≤ 0x8000_0000_0000_0000 then some (.integer (-n)) else none
  else if n < 0x8000_0000_0000_0000 then some (.integer n) else none

/-- An integer. -/
def readInteger (cs : List Char) : Option (Value × List Char) :=
  let based (base : Nat) (digit : Char → Bool) (rest : List Char) : Option (Value × List Char) := do
    let (digits, rest) ← readGrouped digit rest
    return (← integer? false (valueIn base digits), rest)
  match cs with
  | '0' :: 'x' :: rest => based 16 (fun c => (hexValue? c).isSome) rest
  | '0' :: 'o' :: rest => based 8 (fun c => 48 ≤ c.toNat && c.toNat ≤ 55) rest
  | '0' :: 'b' :: rest => based 2 (fun c => c = '0' || c = '1') rest
  | _ => do
    let (sign, rest) := readSign cs
    let (digits, rest) ← readWhole rest
    return (← integer? (sign = some '-') (valueIn 10 digits), rest)

/-- The digits behind a point. -/
def readFraction : List Char → Option (List Char × List Char)
  | '.' :: rest => readGrouped isDigit rest
  | _ => none

/-- The power of an exponent. -/
def readExponent : List Char → Option (Int × List Char)
  | c :: rest =>
    if c = 'e' ∨ c = 'E' then do
      let (sign, rest) := readSign rest
      let (digits, rest) ← readGrouped isDigit rest
      let n : Int := valueIn 10 digits
      return (if sign = some '-' then -n else n, rest)
    else none
  | [] => none

/-- A number with a fraction, an exponent or both, or one that is infinite or none. -/
def readFloat (cs : List Char) : Option (Value × List Char) := do
  let (sign, rest) := readSign cs
  match rest with
  | 'i' :: 'n' :: 'f' :: rest => some (.float "inf", rest)
  | 'n' :: 'a' :: 'n' :: rest => some (.float "nan", rest)
  | _ =>
    let (whole, rest) ← readWhole rest
    let (fraction, power, rest) ← match readFraction rest with
      | some (fraction, rest) =>
        match readExponent rest with
        | some (power, rest) => some (fraction, power, rest)
        | none => some (fraction, (0 : Int), rest)
      | none => (readExponent rest).map fun (power, rest) => ([], power, rest)
    let digits := whole ++ fraction
    if sign ≠ some '-' && DoubleRange.isBeyond (valueIn 10 digits) (power - fraction.length) then none
    else some (.float (String.ofList digits), rest)

/-- A number of exactly so many digits, between two bounds. -/
def readField (count least greatest : Nat) (cs : List Char) : Option (Nat × List Char) :=
  let digits := cs.take count
  if digits.length = count ∧ digits.all isDigit then
    let n := valueIn 10 digits
    if least ≤ n ∧ n ≤ greatest then some (n, cs.drop count) else none
  else none

/-- The characters behind one given character. -/
def expect (c : Char) : List Char → Option (List Char)
  | d :: rest => if d = c then some rest else none
  | [] => none

/-- How many days a month has. -/
def daysIn (year month : Nat) : Nat :=
  if month = 2 then
    if year % 4 = 0 ∧ (year % 100 ≠ 0 ∨ year % 400 = 0) then 29 else 28
  else if month = 4 ∨ month = 6 ∨ month = 9 ∨ month = 11 then 30
  else 31

/-- A date. -/
def readDate (cs : List Char) : Option (List Char) := do
  let (year, cs) ← readField 4 0 9999 cs
  let (month, cs) ← readField 2 1 12 (← expect '-' cs)
  let (_, cs) ← readField 2 1 (daysIn year month) (← expect '-' cs)
  return cs

/-- A time of day. -/
def readTime (cs : List Char) : Option (List Char) := do
  let (_, cs) ← readField 2 0 23 cs
  let (_, cs) ← readField 2 0 59 (← expect ':' cs)
  let (_, cs) ← readField 2 0 60 (← expect ':' cs)
  match cs with
  | '.' :: rest => if (rest.takeWhile isDigit) = [] then none else some (rest.dropWhile isDigit)
  | _ => some cs

/-- The characters behind an optional distance from universal time. -/
def skipOffset (cs : List Char) : List Char :=
  match cs with
  | c :: rest =>
    if c = 'Z' ∨ c = 'z' then rest
    else if c = '+' ∨ c = '-' then
      let behind := do
        let (_, r) ← readField 2 0 23 rest
        let (_, r) ← readField 2 0 59 (← expect ':' r)
        return r
      behind.getD cs
    else cs
  | [] => []

/-- A date, a time or both. -/
def readMoment (cs : List Char) : Option (Value × List Char) :=
  match readDate cs with
  | some rest =>
    match rest with
    | c :: behind =>
      if c = 'T' ∨ c = 't' ∨ c = ' ' then
        match readTime behind with
        | some behind => some (.moment, skipOffset behind)
        | none => some (.moment, rest)
      else some (.moment, rest)
    | [] => some (.moment, [])
  | none => (readTime cs).map fun rest => (.moment, rest)

/-! ## §4. Keys and values -/

/-- How deep values may lie within one another, and how many parts a key may have. -/
def maxDepth : Nat := 80

/-- One part of a key. -/
def readKeyPart (cs : List Char) : Option (String × List Char) :=
  match cs with
  | '\x22' :: rest => (readBasic (cs.length + 1) rest).map fun (s, r) => (String.ofList s, r)
  | '\x27' :: rest => (readLiteral rest).map fun (s, r) => (String.ofList s, r)
  | _ =>
    match cs.takeWhile isBare with
    | [] => none
    | key => some (String.ofList key, cs.dropWhile isBare)

/-- The parts of a key, with dots between them, up to the blanks behind it. -/
def readKeyParts : Nat → List Char → Option (List String × List Char)
  | 0, _ => none
  | fuel + 1, cs => do
    let (key, rest) ← readKeyPart (skipBlanks cs)
    match skipBlanks rest with
    | '.' :: rest =>
      let (keys, rest) ← readKeyParts fuel rest
      return (key :: keys, rest)
    | rest => return ([key], rest)

/-- A key, as the path and the last part. -/
def readKey (cs : List Char) : Option ((List String × String) × List Char) := do
  let (keys, rest) ← readKeyParts (cs.length + 1) cs
  if maxDepth ≤ keys.length then none
  else
    match keys.getLast? with
    | none => none
    | some key => some ((keys.dropLast, key), rest)

mutual

/-- A value, inside as many others as given. -/
def readValue : Nat → Nat → List Char → Option (Value × List Char)
  | 0, _, _ => none
  | fuel + 1, depth, cs =>
    match cs with
    | '[' :: rest =>
      if maxDepth ≤ depth + 1 then none
      else (readElements fuel (depth + 1) rest).map fun (vs, rest) => (.array vs, rest)
    | '\x7b' :: rest =>
      if maxDepth ≤ depth + 1 then none
      else
        match skipBlanks rest with
        | '\x7d' :: rest => some (.inlineTable [], rest)
        | rest =>
          (readFields fuel (depth + 1) [] rest).map fun (es, rest) =>
            (.inlineTable (Item.toFields es), rest)
    | 't' :: 'r' :: 'u' :: 'e' :: rest => some (.boolean true, rest)
    | 'f' :: 'a' :: 'l' :: 's' :: 'e' :: rest => some (.boolean false, rest)
    | c :: _ =>
      if c = '\x22' ∨ c = '\x27' then (readString cs).map fun (s, rest) => (.string s, rest)
      else
        match readMoment cs with
        | some r => some r
        | none =>
          match readFloat cs with
          | some r => some r
          | none => readInteger cs
    | [] => none

/-- The elements of an array up to its end. -/
def readElements : Nat → Nat → List Char → Option (List Value × List Char)
  | 0, _, _ => none
  | fuel + 1, depth, cs => do
    match ← skipGap (fuel + 1) cs with
    | ']' :: rest => return ([], rest)
    | cs =>
      let (v, rest) ← readValue fuel depth cs
      match ← skipGap (fuel + 1) rest with
      | ',' :: rest =>
        let (vs, rest) ← readElements fuel depth rest
        return (v :: vs, rest)
      | ']' :: rest => return ([v], rest)
      | _ => none

/-- The fields of an inline table up to its end, behind those in `es`. -/
def readFields : Nat → Nat → Entries → List Char → Option (Entries × List Char)
  | 0, _, _, _ => none
  | fuel + 1, depth, es, cs => do
    let ((path, key), rest) ← readKey cs
    let rest ← expect '=' rest
    let (v, rest) ← readValue fuel depth (skipBlanks rest)
    let es ← es.addValue path key v .opened
    match skipBlanks rest with
    | ',' :: rest => readFields fuel depth es rest
    | '\x7d' :: rest => return (es, rest)
    | _ => none

end

/-! ## §5. Documents -/

/-- A header, as the path and the last part, and whether it may be repeated. -/
def readHeader (cs : List Char) : Option (((List String × String) × Bool) × List Char) :=
  match cs with
  | '[' :: '[' :: rest => do
    let (key, rest) ← readKey rest
    let rest ← expect ']' (← expect ']' rest)
    return ((key, true), rest)
  | '[' :: rest => do
    let (key, rest) ← readKey rest
    let rest ← expect ']' rest
    return ((key, false), rest)
  | _ => none

/-- The lines of a document below the header of a table, behind the entries so far. -/
def readLines : Nat → List String → Entries → List Char → Option Entries
  | 0, _, _, _ => none
  | fuel + 1, header, es, cs =>
    match skipBlanks cs with
    | [] => some es
    | '#' :: rest => do readLines fuel header es (← finishLine ('#' :: rest))
    | '[' :: rest => do
      let (((path, key), repeated), rest) ← readHeader ('[' :: rest)
      let es ← if repeated then es.appendTable path key else es.openTable path key
      readLines fuel (path ++ [key]) es (← finishLine rest)
    | c :: rest =>
      match lineEnd? (c :: rest) with
      | some rest => readLines fuel header es rest
      | none => do
        let ((path, key), rest) ← readKey (c :: rest)
        let rest ← expect '=' rest
        let (v, rest) ← readValue (2 * cs.length + 2) 0 (skipBlanks rest)
        let es ← es.addBelow header path key v
        readLines fuel header es (← finishLine rest)

/-- The entries of the document that a text spells. A byte order mark before it does not
    count. -/
def read? (s : String) : Option Entries :=
  match s.toList with
  | '\uFEFF' :: rest => readLines (rest.length + 1) [] [] rest
  | cs => readLines (cs.length + 1) [] [] cs

end StakeRelay.Toml
