/-
  StakeRelay.Json.Basic — JSON values and their texts.

  The fields of an object keep their order, and a number is kept as its digits, so that
  a value of any size is written exactly. A value is written either in one line without
  blanks or over several lines, indented by two blanks for each level.
-/

namespace StakeRelay

/-- A JSON value. -/
inductive Json
  | null
  | bool (b : Bool)
  /-- A number, as it is written. -/
  | number (digits : String)
  | string (s : String)
  | array (elements : List Json)
  /-- An object, as its names and values in order. -/
  | object (fields : List (String × Json))
  deriving Repr

namespace Json

/-- The number with this value. -/
def ofNat (n : Nat) : Json := .number (toString n)

/-! ## §1. Texts of strings -/

/-- A digit of a four-digit escape. -/
def hexDigit (n : Nat) : Char := (Nat.digitChar n)

/-- The form of a character within a string. Quotes, backslashes and control characters
    are escaped and nothing else. -/
def escape (c : Char) : List Char :=
  if c = '\x22' then ['\\', '\x22']
  else if c = '\\' then ['\\', '\\']
  else if c = '\n' then ['\\', 'n']
  else if c = '\r' then ['\\', 'r']
  else if c = '\t' then ['\\', 't']
  else if c = '\x08' then ['\\', 'b']
  else if c = '\x0c' then ['\\', 'f']
  else if c.toNat < 0x20 then
    ['\\', 'u', '0', '0', hexDigit (c.toNat / 16), hexDigit (c.toNat % 16)]
  else [c]

/-- The text of a string. -/
def quoted (s : String) : String :=
  String.ofList ('\x22' :: s.toList.flatMap escape ++ ['\x22'])

/-! ## §2. Texts of values -/

/-- The texts between commas, each behind `lead`. -/
def commaSeparated (lead : String) : List String → String
  | [] => ""
  | [s] => lead ++ s
  | s :: rest => lead ++ s ++ "," ++ commaSeparated lead rest

mutual

/-- The text of a value in one line. -/
def compact : Json → String
  | .null => "null"
  | .bool b => if b then "true" else "false"
  | .number digits => digits
  | .string s => quoted s
  | .array elements => "[" ++ commaSeparated "" (compactAll elements) ++ "]"
  | .object fields => "\x7b" ++ commaSeparated "" (compactFields fields) ++ "\x7d"

/-- The texts of values in one line each. -/
def compactAll : List Json → List String
  | [] => []
  | v :: rest => compact v :: compactAll rest

/-- The texts of fields in one line each. -/
def compactFields : List (String × Json) → List String
  | [] => []
  | (name, v) :: rest => (quoted name ++ ":" ++ compact v) :: compactFields rest

end

/-- A new line at a level. -/
def lineAt (level : Nat) : String :=
  "\n" ++ String.ofList (List.replicate (2 * level) ' ')

mutual

/-- The text of a value over several lines, inside as many levels as given. -/
def prettyAt (level : Nat) : Json → String
  | .array (v :: rest) =>
    "[" ++ commaSeparated (lineAt (level + 1)) (prettyAll (level + 1) (v :: rest)) ++
      lineAt level ++ "]"
  | .object (f :: rest) =>
    "\x7b" ++ commaSeparated (lineAt (level + 1)) (prettyFields (level + 1) (f :: rest)) ++
      lineAt level ++ "\x7d"
  | .null => "null"
  | .bool b => if b then "true" else "false"
  | .number digits => digits
  | .string s => quoted s
  | .array [] => "[]"
  | .object [] => "\x7b\x7d"

/-- The texts of values over several lines. -/
def prettyAll (level : Nat) : List Json → List String
  | [] => []
  | v :: rest => prettyAt level v :: prettyAll level rest

/-- The texts of fields over several lines. -/
def prettyFields (level : Nat) : List (String × Json) → List String
  | [] => []
  | (name, v) :: rest =>
    (quoted name ++ ": " ++ prettyAt level v) :: prettyFields level rest

end

/-- The text of a value over several lines. -/
def pretty (v : Json) : String := prettyAt 0 v

/-! ## §3. Fields -/

/-- The values of the fields with a name. -/
def fieldsNamed (name : String) (fields : List (String × Json)) : List Json :=
  (fields.filter fun f => f.1 = name).map (·.2)

/-- The value of the first field with a name. -/
def field? (name : String) (fields : List (String × Json)) : Option Json :=
  (fieldsNamed name fields).head?

end Json

end StakeRelay
