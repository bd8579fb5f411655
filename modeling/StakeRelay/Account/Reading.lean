/-
  StakeRelay.Account.Reading — addresses and account keys from bytes, words and texts.

  The text of an address is forty hexadecimal digits of either case; white space around
  it and one `0x` before it are ignored. The digits are read as bytes, so a text that
  holds other characters is refused at the first byte that is no digit.
-/

import StakeRelay.Failure
import StakeRelay.Text.Blank
import StakeRelay.Text.Utf8

namespace StakeRelay

/-! ## §1. From bytes -/

/-- The address with these bytes. -/
def Address.ofBytes (bs : Bytes) : Except Failure Address :=
  match Address.ofBytes? bs with
  | some a => .ok a
  | none => .error (.decode (.addressSize bs.length))

/-- The address in a word, whose upper twelve bytes have to be zero. -/
def Address.ofWord (w : Word) : Except Failure Address :=
  if (w.bytes.take 12).all (· = 0) then .ok (Address.ofLowerBytes w)
  else .error (.decode (.unpaddedWord w))

/-- The account key with these bytes. -/
def AccountId.ofBytes (bs : Bytes) : Except Failure AccountId :=
  match AccountId.ofBytes? bs with
  | some k => .ok k
  | none => .error (.decode (.accountSize bs.length))

/-! ## §2. From texts -/

/-- The characters behind one `0x`, if they start with it. -/
def dropHexMark : List Char → List Char
  | '0' :: 'x' :: rest => rest
  | cs => cs

/-- Why a text is no address, or the address. -/
def Address.parseFault (s : String) : Except DecodeFault Address :=
  match Hex.decode (Utf8.encodeChars (dropHexMark (Text.trimChars s.toList))) with
  | .error fault => .error (.hex fault)
  | .ok bs =>
    match Address.ofBytes? bs with
    | some a => .ok a
    | none => .error (.addressSize bs.length)

/-- The address that a text spells. -/
def Address.parse (s : String) : Except Failure Address :=
  (Address.parseFault s).mapError .decode

end StakeRelay
