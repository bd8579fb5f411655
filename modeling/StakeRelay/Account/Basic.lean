/-
  StakeRelay.Account.Basic — 32-byte words, 20-byte addresses, 32-byte account keys.

  A source-chain account is an address. The destination chain knows the same account
  under a key of 32 bytes, the address behind twelve zero bytes; that is also how an
  address stands in a word of a log. Addresses and keys are ordered byte by byte.
-/

import StakeRelay.Text.Hex

namespace StakeRelay

/-! ## §1. Words -/

/-- A word of a log or of a call's arguments and results. -/
structure Word where
  /-- The bytes, most significant first. -/
  bytes : Bytes
  length_eq : bytes.length = 32
  deriving DecidableEq

/-- The hexadecimal text of a word. -/
def Word.text (w : Word) : String := Hex.encode0x w.bytes

instance : Repr Word := ⟨fun w _ => w.text⟩

/-- The word with these bytes, if there are 32 of them. -/
def Word.ofBytes? (bs : Bytes) : Option Word :=
  if h : bs.length = 32 then some ⟨bs, h⟩ else none

/-! ## §2. Addresses -/

/-- An account of the source chain. -/
structure Address where
  /-- The bytes, most significant first. -/
  bytes : Bytes
  length_eq : bytes.length = 20
  deriving DecidableEq

namespace Address

/-- Bytes of an address. -/
def size : Nat := 20

/-- The address whose bytes are all zero. -/
def zero : Address := ⟨List.replicate 20 0, rfl⟩

instance : Inhabited Address := ⟨zero⟩

/-- The hexadecimal text of an address. -/
def text (a : Address) : String := Hex.encode0x a.bytes

instance : Repr Address := ⟨fun a _ => a.text⟩

/-- The address with these bytes, if there are twenty of them. -/
def ofBytes? (bs : Bytes) : Option Address :=
  if h : bs.length = 20 then some ⟨bs, h⟩ else none

/-- The word that holds the address behind twelve zero bytes. -/
def toWord (a : Address) : Word :=
  ⟨List.replicate 12 0 ++ a.bytes, by rw [List.length_append, a.length_eq]; rfl⟩

/-- The address in the lower twenty bytes of a word, whatever the upper bytes are. -/
def ofLowerBytes (w : Word) : Address :=
  ⟨w.bytes.drop 12, by rw [List.length_drop, w.length_eq]⟩

theorem ofLowerBytes_toWord (a : Address) : ofLowerBytes a.toWord = a := by
  cases a with
  | mk bytes length_eq => simp [ofLowerBytes, toWord]

/-- The addresses in byte order, each of them once. -/
def sortDistinct (as : List Address) : List Address :=
  (as.mergeSort fun a b => decide (a.bytes ≤ b.bytes)).eraseDups

end Address

/-! ## §3. Account keys -/

/-- An account of the destination chain. -/
structure AccountId where
  /-- The bytes, most significant first. -/
  bytes : Bytes
  length_eq : bytes.length = 32
  deriving DecidableEq

namespace AccountId

/-- The key whose bytes are all zero. -/
def zero : AccountId := ⟨List.replicate 32 0, rfl⟩

instance : Inhabited AccountId := ⟨zero⟩

/-- The hexadecimal text of a key. -/
def text (k : AccountId) : String := Hex.encode0x k.bytes

instance : Repr AccountId := ⟨fun k _ => k.text⟩

/-- The key with these bytes, if there are 32 of them. -/
def ofBytes? (bs : Bytes) : Option AccountId :=
  if h : bs.length = 32 then some ⟨bs, h⟩ else none

/-- The key of a source-chain account. -/
def ofAddress (a : Address) : AccountId := ⟨a.toWord.bytes, a.toWord.length_eq⟩

theorem bytes_ofAddress (a : Address) :
    (ofAddress a).bytes = List.replicate 12 0 ++ a.bytes := rfl

/-- The keys in byte order. -/
def sort (ks : List AccountId) : List AccountId :=
  ks.mergeSort fun a b => decide (a.bytes ≤ b.bytes)

end AccountId

end StakeRelay
