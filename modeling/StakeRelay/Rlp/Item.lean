/-
  StakeRelay.Rlp.Item — items of the recursive length prefix encoding.

  An item is one byte below 0x80, or a header and a payload. The header tells data from
  lists and gives the payload's length, in its one byte up to 55 and otherwise in
  further bytes, most significant first.

  A reader walks items one after another. `sequence` is that walk: it stops without
  complaint at the first place where no complete item starts, so what is left over
  there is not looked at. `listItems` walks from the end of a list's header to the end
  of the bytes at hand, which for an item cut to its own length is its payload.
-/

import StakeRelay.Number.BigEndian

namespace StakeRelay.Rlp

/-- Why bytes are not the item that is asked for. -/
inductive Fault
  /-- The bytes end before the item does. -/
  | tooShort
  /-- The length of a payload starts with a zero byte. -/
  | zeroLength
  /-- A shorter form exists and has to be used. -/
  | notShortest
  /-- The item is data where a list is asked for. -/
  | notList
  /-- The item is a list where data is asked for. -/
  | notData
  /-- The number has too many bytes. -/
  | tooBig
  /-- The list has the wrong number of items. -/
  | itemCount
  deriving Repr, DecidableEq

/-- The name under which a fault is reported. -/
def Fault.text : Fault → String
  | .tooShort => "RlpIsTooShort"
  | .zeroLength => "RlpDataLenWithZeroPrefix"
  | .notShortest => "RlpInvalidIndirection"
  | .notList => "RlpExpectedToBeList"
  | .notData => "RlpExpectedToBeData"
  | .tooBig => "RlpIsTooBig"
  | .itemCount => "RlpIncorrectListLen"

/-! ## §1. Headers -/

/-- The extent of an item. -/
structure Header where
  /-- Bytes before the payload. -/
  size : Nat
  /-- Bytes of the payload. -/
  payload : Nat
  deriving Repr, DecidableEq

/-- All bytes of the item. -/
def Header.total (h : Header) : Nat := h.size + h.payload

/-- The header of an item whose length stands in the first `k` bytes of `rest`. -/
def longHeader (k : Nat) (rest : Bytes) : Except Fault Header :=
  match rest with
  | [] => .error .tooShort
  | first :: _ =>
    if first = 0 then .error .zeroLength
    else if rest.length < k then .error .tooShort
    else
      let n := BigEndian.value (rest.take k)
      if n ≤ 55 then .error .notShortest else .ok ⟨1 + k, n⟩

/-- The header that a first byte and the bytes behind it announce. -/
def announced (b : UInt8) (rest : Bytes) : Except Fault Header :=
  let n := b.toNat
  if n < 0x80 then .ok ⟨0, 1⟩
  else if n ≤ 0xB7 then .ok ⟨1, n - 0x80⟩
  else if n < 0xC0 then longHeader (n - 0xB7) rest
  else if n ≤ 0xF7 then .ok ⟨1, n - 0xC0⟩
  else longHeader (n - 0xF7) rest

/-- The header of the complete item at the front of the bytes. -/
def header? : Bytes → Except Fault Header
  | [] => .error .tooShort
  | b :: rest =>
    match announced b rest with
    | .error fault => .error fault
    | .ok h => if rest.length + 1 < h.total then .error .tooShort else .ok h

theorem longHeader_size {k : Nat} {rest : Bytes} {h : Header} (e : longHeader k rest = .ok h) :
    h.size = 1 + k := by
  simp only [longHeader] at e
  split at e
  · contradiction
  · split at e
    · contradiction
    · split at e
      · contradiction
      · split at e
        · contradiction
        · injection e with e; subst e; rfl

theorem announced_total_pos {b : UInt8} {rest : Bytes} {h : Header}
    (e : announced b rest = .ok h) : 0 < h.total := by
  simp only [announced] at e
  split at e
  · injection e with e; subst e; simp [Header.total]
  · split at e
    · injection e with e; subst e; simp only [Header.total]; omega
    · split at e
      · have := longHeader_size e; simp only [Header.total]; omega
      · split at e
        · injection e with e; subst e; simp only [Header.total]; omega
        · have := longHeader_size e; simp only [Header.total]; omega

/-- A complete item has at least one byte: `0 < h.total`. -/
theorem total_pos_of_header? {bs : Bytes} {h : Header} (e : header? bs = .ok h) :
    0 < h.total := by
  cases bs with
  | nil => simp [header?] at e
  | cons b rest =>
    simp only [header?] at e
    split at e
    · contradiction
    · rename_i h' ha
      split at e
      · contradiction
      · injection e with e; subst e; exact announced_total_pos ha

/-- A complete item lies within the bytes: `h.total ≤ bs.length`. -/
theorem total_le_of_header? {bs : Bytes} {h : Header} (e : header? bs = .ok h) :
    h.total ≤ bs.length := by
  cases bs with
  | nil => simp [header?] at e
  | cons b rest =>
    simp only [header?] at e
    split at e
    · contradiction
    · split at e
      · contradiction
      · injection e with e; subst e; rw [List.length_cons]; omega

/-! ## §2. Walking items -/

/-- The complete items at the front of the bytes, one behind the other. -/
def sequence (bs : Bytes) : List Bytes :=
  match _e : header? bs with
  | .error _ => []
  | .ok h => bs.take h.total :: sequence (bs.drop h.total)
termination_by bs.length
decreasing_by
  have := total_pos_of_header? _e
  have := total_le_of_header? _e
  simp only [List.length_drop]
  omega

/-- Whether the bytes announce a list. -/
def isList : Bytes → Bool
  | [] => false
  | b :: _ => 0xC0 ≤ b.toNat

/-- The items behind the header of a list; none when the header is broken. -/
def listItems (bs : Bytes) : Except Fault (List Bytes) :=
  if isList bs then
    match header? bs with
    | .error _ => .ok []
    | .ok h => .ok (sequence (bs.drop h.size))
  else .error .notList

/-! ## §3. Values -/

/-- The data of an item. One byte below 0x80 stands for itself and for nothing else. -/
def data (item : Bytes) : Except Fault Bytes :=
  if isList item then .error .notData
  else
    match header? item with
    | .error fault => .error fault
    | .ok h =>
      let payload := (item.drop h.size).take h.payload
      match h.size, payload with
      | 1, [b] => if b.toNat < 0x80 then .error .notShortest else .ok payload
      | _, _ => .ok payload

/-- The number of at most `width` bytes that an item holds, without leading zeros. -/
def number (width : Nat) (item : Bytes) : Except Fault Nat :=
  match data item with
  | .error fault => .error fault
  | .ok bs =>
    if width < bs.length then .error .tooBig
    else if bs.head? = some 0 then .error .notShortest
    else .ok (BigEndian.value bs)

/-! ## §4. Writing -/

/-- The header of a payload of `n` bytes, where `base` announces the empty payload. -/
def lengthHeader (base n : Nat) : Bytes :=
  if n ≤ 55 then [UInt8.ofNat (base + n)]
  else
    let digits := BigEndian.minimal n
    UInt8.ofNat (base + 55 + digits.length) :: digits

/-- The item that holds the data. -/
def encodeData (bs : Bytes) : Bytes :=
  match bs with
  | [b] => if b.toNat < 0x80 then [b] else [0x81, b]
  | _ => lengthHeader 0x80 bs.length ++ bs

/-- The item that holds a number, as its data without leading zeros. -/
def encodeNumber (n : Nat) : Bytes :=
  encodeData (BigEndian.minimal n)

/-- The list of the given items. -/
def encodeList (items : List Bytes) : Bytes :=
  lengthHeader 0xC0 items.flatten.length ++ items.flatten

end StakeRelay.Rlp
