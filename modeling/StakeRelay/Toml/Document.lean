/-
  StakeRelay.Toml.Document — the tables that a TOML text builds.

  A document is built key by key. A table comes to be in one of three ways: a header
  opens it, a longer header implies it, or a dotted key writes through it. A table may
  be opened once, and only if nothing or a longer header made it before. A dotted key
  may write through tables that dotted keys made and not through an opened one. A key
  has one value.
-/

namespace StakeRelay.Toml

/-! ## §1. Values and items -/

/-- A value. -/
inductive Value
  | string (s : String)
  | integer (n : Int)
  | boolean (b : Bool)
  /-- A number with a fraction or an exponent, as it is written. -/
  | float (text : String)
  /-- A date, a time or both. -/
  | moment
  | array (elements : List Value)
  | inlineTable (fields : List (String × Value))
  deriving Repr

/-- How a table came to be. -/
inductive Origin
  /-- By its own header. -/
  | opened
  /-- By the header of a table below it. -/
  | implied
  /-- By a dotted key through it. -/
  | dotted
  deriving Repr, DecidableEq

/-- What a key stands for. -/
inductive Item
  | value (v : Value)
  | table (origin : Origin) (entries : List (String × Item))
  /-- The tables under one repeated header, each with its entries. -/
  | tables (elements : List (List (String × Item)))
  deriving Repr

/-- The items of a table by their keys. -/
abbrev Entries := List (String × Item)

namespace Entries

/-- The item of a key. -/
def find? (es : Entries) (key : String) : Option Item := es.lookup key

/-- The entries with another item for a key. -/
def set (es : Entries) (key : String) (item : Item) : Entries :=
  if (es.find? key).isSome then es.map fun e => if e.1 = key then (key, item) else e
  else es ++ [(key, item)]

/-! ## §2. Changing a table inside others -/

/-- Changes the table that `path` leads to by `change`, and makes the tables on the way.
    With `dotted` the path belongs to a dotted key, otherwise to a header. -/
def modify (dotted : Bool) (change : Origin → Entries → Option Entries) :
    List String → Origin → Entries → Option Entries
  | [], origin, es => change origin es
  | key :: path, _, es =>
    match es.find? key with
    | none => do
      let origin := if dotted then Origin.dotted else Origin.implied
      let inner ← modify dotted change path origin []
      return es.set key (.table origin inner)
    | some (.value _) => none
    | some (.tables elements) =>
      match elements.reverse with
      | [] => none
      | last :: before => do
        let inner ← modify dotted change path .opened last
        return es.set key (.tables (before.reverse ++ [inner]))
    | some (.table origin inner) =>
      if dotted && origin = .opened then none
      else do
        let inner ← modify dotted change path origin inner
        return es.set key (.table origin inner)

/-- Adds a value under a dotted key, given as the path and the last part. -/
def addValue (path : List String) (key : String) (v : Value) (origin : Origin) (es : Entries) :
    Option Entries :=
  modify true (fun origin inner =>
    if (origin = .dotted) = (path = []) then none
    else if (inner.find? key).isSome then none
    else some (inner ++ [(key, .value v)])) path origin es

/-- Opens the table of a header. -/
def openTable (path : List String) (key : String) (es : Entries) : Option Entries :=
  modify false (fun _ inner =>
    match inner.find? key with
    | none => some (inner ++ [(key, .table .opened [])])
    | some (.table .implied below) => some (inner.set key (.table .opened below))
    | some _ => none) path .opened es

/-- Adds a table under a repeated header. -/
def appendTable (path : List String) (key : String) (es : Entries) : Option Entries :=
  modify false (fun _ inner =>
    match inner.find? key with
    | none => some (inner ++ [(key, .tables [[]])])
    | some (.tables elements) => some (inner.set key (.tables (elements ++ [[]])))
    | some _ => none) path .opened es

/-- Adds a value below the table that the last header named. -/
def addBelow (header path : List String) (key : String) (v : Value) (es : Entries) :
    Option Entries :=
  modify false (fun _ inner => addValue path key v .opened inner) header .opened es

end Entries

mutual

/-- The value that an item amounts to. -/
def Item.toValue : Item → Value
  | .value v => v
  | .table _ entries => .inlineTable (Item.toFields entries)
  | .tables elements => .array (Item.toTables elements)

/-- The values of entries. -/
def Item.toFields : List (String × Item) → List (String × Value)
  | [] => []
  | (key, item) :: rest => (key, item.toValue) :: Item.toFields rest

/-- The values of tables. -/
def Item.toTables : List (List (String × Item)) → List Value
  | [] => []
  | entries :: rest => .inlineTable (Item.toFields entries) :: Item.toTables rest

end

end StakeRelay.Toml
