/-
  StakeRelay.Proofs.Rlp.Item — written items are read again.

  A reader finds an item by its header, in front of whatever follows. An item is `Whole`
  when its header announces just its own bytes there. Written items are whole, so a walk
  finds the items of a written list one after another and nothing else.

  Main statements:
    * `whole_encodeData`, `whole_encodeList` — written items are whole;
    * `listItems_encodeList` — the items of a written list;
    * `data_encodeData`, `number_encodeNumber` — the values of written items.
-/

import StakeRelay.Proofs.Number.BigEndian
import StakeRelay.Rlp.Item

namespace StakeRelay.Rlp

/-! ## §1. Headers -/

/-- The bases of data and of lists. -/
def IsBase (base : Nat) : Prop := base = 0x80 ∨ base = 0xC0

theorem isBase_data : IsBase 0x80 := .inl rfl

theorem isBase_list : IsBase 0xC0 := .inr rfl

/-- A header for `n < 256 ^ k` has `k + 1` bytes at most. -/
theorem length_lengthHeader_le (base : Nat) {k n : Nat} (small : n < 256 ^ k) :
    (lengthHeader base n).length ≤ k + 1 := by
  unfold lengthHeader
  split
  · simp
  · have := BigEndian.length_minimal_le small
    simp only [List.length_cons]
    omega

/-- The digits of a length above `55` are read as that length. -/
theorem longHeader_minimal {n : Nat} (long : 55 < n) (rest : Bytes) :
    longHeader (BigEndian.minimal n).length (BigEndian.minimal n ++ rest) =
      .ok ⟨1 + (BigEndian.minimal n).length, n⟩ := by
  -- a length above 55 is not zero, so its form has a first digit that is not zero
  obtain ⟨first, digits, form, pos⟩ := BigEndian.minimal_cons (n := n) (by omega)
  have front : (BigEndian.minimal n ++ rest).take (BigEndian.minimal n).length =
      BigEndian.minimal n := List.take_left
  have nonempty : BigEndian.minimal n ++ rest = first :: (digits ++ rest) := by
    rw [form]
    rfl
  have enough : ¬ (BigEndian.minimal n ++ rest).length < (BigEndian.minimal n).length := by
    rw [List.length_append]
    omega
  unfold longHeader
  rw [nonempty]
  simp only
  rw [if_neg pos, ← nonempty, if_neg enough, front, BigEndian.value_minimal, if_neg (by omega)]

/-- The header that is written for `n` bytes is read as one that announces `n`. -/
theorem announced_lengthHeader {base n : Nat} (kind : IsBase base) (small : n < 2 ^ 64)
    {b : UInt8} {digits : Bytes} (form : lengthHeader base n = b :: digits) (rest : Bytes) :
    announced b (digits ++ rest) = .ok ⟨(b :: digits).length, n⟩ := by
  unfold lengthHeader at form
  split at form
  · rename_i short
    obtain ⟨rfl, rfl⟩ := List.cons.inj form
    -- the length stands in the first byte itself
    have value : (UInt8.ofNat (base + n)).toNat = base + n := by
      rw [UInt8.toNat_ofNat']
      rcases kind with rfl | rfl <;> omega
    unfold announced
    simp only [value]
    rcases kind with rfl | rfl
    · rw [if_neg (by omega), if_pos (by omega), Nat.add_sub_cancel_left]
      rfl
    · rw [if_neg (by omega), if_neg (by omega), if_neg (by omega), if_pos (by omega),
        Nat.add_sub_cancel_left]
      rfl
  · rename_i long
    obtain ⟨rfl, rfl⟩ := List.cons.inj form
    -- the first byte tells how many bytes of the length come behind it
    have size := BigEndian.length_minimal_le (k := 8) (n := n) (by omega)
    have pos : 0 < (BigEndian.minimal n).length :=
      List.length_pos_iff.mpr (BigEndian.minimal_ne_nil (by omega))
    have read := longHeader_minimal (n := n) (by omega) rest
    rw [Nat.add_comm] at read
    have value : (UInt8.ofNat (base + 55 + (BigEndian.minimal n).length)).toNat =
        base + 55 + (BigEndian.minimal n).length := by
      rw [UInt8.toNat_ofNat']
      rcases kind with rfl | rfl <;> omega
    unfold announced
    simp only [value]
    rcases kind with rfl | rfl
    · rw [if_neg (by omega), if_neg (by omega), if_pos (by omega),
        show 0x80 + 55 = 0xB7 from rfl, Nat.add_sub_cancel_left, read]
      rfl
    · rw [if_neg (by omega), if_neg (by omega), if_neg (by omega), if_neg (by omega),
        show 0xC0 + 55 = 0xF7 from rfl, Nat.add_sub_cancel_left, read]
      rfl

theorem lengthHeader_ne_nil (base n : Nat) : lengthHeader base n ≠ [] := by
  unfold lengthHeader
  split <;> exact List.cons_ne_nil _ _

/-- A header that is `announced` is read if there are enough bytes behind it. -/
theorem header?_of_announced {b : UInt8} {rest : Bytes} {h : Header}
    (read : announced b rest = .ok h) (enough : h.total ≤ rest.length + 1) :
    header? (b :: rest) = .ok h := by
  unfold header?
  simp only [read]
  exact if_neg (by omega)

/-- The header in front of its payload is read, whatever stands behind that. -/
theorem header?_lengthHeader {base : Nat} {payload : Bytes} (kind : IsBase base)
    (small : payload.length < 2 ^ 64) (rest : Bytes) :
    header? (lengthHeader base payload.length ++ payload ++ rest) =
      .ok ⟨(lengthHeader base payload.length).length, payload.length⟩ := by
  obtain ⟨b, digits, form⟩ := List.exists_cons_of_ne_nil (lengthHeader_ne_nil base payload.length)
  rw [form, List.append_assoc, List.cons_append]
  refine header?_of_announced (announced_lengthHeader kind small form _) ?_
  simp only [Header.total, List.length_cons, List.length_append]
  omega

/-- The first byte tells data, `0x80`, from lists, `0xC0`. -/
theorem isList_lengthHeader {base n : Nat} (kind : IsBase base) (small : n < 2 ^ 64)
    (rest : Bytes) : isList (lengthHeader base n ++ rest) = decide (base = 0xC0) := by
  have size := BigEndian.length_minimal_le (k := 8) (n := n) (by omega)
  unfold lengthHeader
  split
  · show decide (0xC0 ≤ (UInt8.ofNat (base + n)).toNat) = _
    rw [UInt8.toNat_ofNat', decide_eq_decide]
    rcases kind with rfl | rfl <;> omega
  · show decide (0xC0 ≤ (UInt8.ofNat (base + 55 + (BigEndian.minimal n).length)).toNat) = _
    rw [UInt8.toNat_ofNat', decide_eq_decide]
    rcases kind with rfl | rfl <;> omega

/-! ## §2. Whole items -/

/-- The header announces just the bytes of the item, whatever follows it. -/
def Whole (item : Bytes) : Prop :=
  ∀ rest, ∃ h, header? (item ++ rest) = .ok h ∧ h.total = item.length

/-- A payload behind its header is a `Whole` item. -/
theorem whole_lengthHeader {base : Nat} {payload : Bytes} (kind : IsBase base)
    (small : payload.length < 2 ^ 64) : Whole (lengthHeader base payload.length ++ payload) :=
  fun rest => ⟨_, header?_lengthHeader kind small rest, List.length_append.symm⟩

/-- So is what `encodeData` writes. -/
theorem whole_encodeData {bs : Bytes} (small : bs.length < 2 ^ 64) : Whole (encodeData bs) := by
  unfold encodeData
  split
  · rename_i b
    split
    · rename_i ascii
      intro rest
      -- a byte below 128 stands for itself, without a header
      refine ⟨⟨0, 1⟩, ?_, rfl⟩
      exact header?_of_announced (if_pos ascii) (Nat.succ_le_succ (Nat.zero_le _))
    · have high : Whole (lengthHeader 0x80 [b].length ++ [b]) :=
        whole_lengthHeader isBase_data (by simp)
      exact high
  · exact whole_lengthHeader isBase_data small

/-- And what `encodeList` does. -/
theorem whole_encodeList {items : List Bytes} (small : items.flatten.length < 2 ^ 64) :
    Whole (encodeList items) := whole_lengthHeader isBase_list small

@[simp] theorem sequence_nil : sequence [] = [] := by
  unfold sequence
  rfl

theorem sequence_of_error {bs : Bytes} {fault : Fault} (broken : header? bs = .error fault) :
    sequence bs = [] := by
  unfold sequence
  split
  · rfl
  · rename_i h read
    rw [broken] at read
    cases read

theorem sequence_of_ok {bs : Bytes} {h : Header} (read : header? bs = .ok h) :
    sequence bs = bs.take h.total :: sequence (bs.drop h.total) := by
  conv =>
    lhs
    unfold sequence
  split
  · rename_i fault broken
    rw [read] at broken
    cases broken
  · rename_i h' read'
    rw [read] at read'
    injection read' with same
    rw [same]

/-- `sequence` finds `Whole` items one after another, and then goes on behind them. -/
theorem sequence_flatten_append {items : List Bytes} (whole : ∀ item ∈ items, Whole item)
    (rest : Bytes) : sequence (items.flatten ++ rest) = items ++ sequence rest := by
  induction items with
  | nil => rfl
  | cons item items ih =>
    obtain ⟨h, read, total⟩ := whole item List.mem_cons_self (items.flatten ++ rest)
    have later := ih fun item member => whole item (List.mem_cons_of_mem _ member)
    rw [List.flatten_cons, List.append_assoc]
    -- the walk goes on just behind the first item
    rw [sequence_of_ok read, total, List.take_left, List.drop_left, later, List.cons_append]

/-- So `sequence` finds just them where nothing stands behind. -/
theorem sequence_flatten {items : List Bytes} (whole : ∀ item ∈ items, Whole item) :
    sequence items.flatten = items := by
  have walked := sequence_flatten_append whole []
  rwa [List.append_nil, sequence_nil, List.append_nil] at walked

/-- What is read of `encodeList items ++ rest` are the items, and whatever complete items stand
    in `rest`. -/
theorem listItems_encodeList_append {items : List Bytes} (small : items.flatten.length < 2 ^ 64)
    (whole : ∀ item ∈ items, Whole item) (rest : Bytes) :
    listItems (encodeList items ++ rest) = .ok (items ++ sequence rest) := by
  have read := header?_lengthHeader isBase_list small rest
  have list : isList (encodeList items ++ rest) = true := by
    unfold encodeList
    rw [List.append_assoc]
    exact isList_lengthHeader isBase_list small _
  unfold listItems
  rw [if_pos list]
  unfold encodeList
  rw [read]
  show Except.ok (sequence _) = _
  rw [List.append_assoc, List.drop_left, sequence_flatten_append whole]

/-- Without a rest they are the items: `listItems (encodeList items) = .ok items`. -/
theorem listItems_encodeList {items : List Bytes} (small : items.flatten.length < 2 ^ 64)
    (whole : ∀ item ∈ items, Whole item) : listItems (encodeList items) = .ok items := by
  have read := listItems_encodeList_append small whole []
  rwa [List.append_nil, sequence_nil, List.append_nil] at read

/-! ## §3. Values -/

/-- The `data` of a payload behind its header, unless the payload is one small byte. -/
theorem data_lengthHeader {payload : Bytes} (small : payload.length < 2 ^ 64)
    (plain : ∀ b, payload = [b] → 0x80 ≤ b.toNat) :
    data (lengthHeader 0x80 payload.length ++ payload) = .ok payload := by
  have read := header?_lengthHeader isBase_data small []
  rw [List.append_nil] at read
  unfold data
  rw [isList_lengthHeader isBase_data small, read, if_neg (by decide)]
  simp only
  rw [List.drop_left, List.take_length]
  split
  · rename_i b _
    exact if_neg (Nat.not_lt.mpr (plain b rfl))
  · rfl

/-- What `encodeData` wrote is read again by `data`. -/
theorem data_encodeData {bs : Bytes} (small : bs.length < 2 ^ 64) :
    data (encodeData bs) = .ok bs := by
  unfold encodeData
  split
  · rename_i b
    split
    · rename_i ascii
      have list : isList [b] = false := decide_eq_false (by omega)
      have read : header? [b] = .ok ⟨0, 1⟩ := header?_of_announced (if_pos ascii) (Nat.le_refl 1)
      unfold data
      rw [list, read]
      rfl
    · rename_i high
      have plain : ∀ c, [b] = [c] → 0x80 ≤ c.toNat := by
        intro c same
        obtain rfl : b = c := by simpa using same
        omega
      exact data_lengthHeader (by simp) plain
  · rename_i several
    exact data_lengthHeader small fun b same => absurd same (several b)

/-- And so is a number that fits the width, by `number`. -/
theorem number_encodeNumber {width n : Nat} (fits : n < 256 ^ width) (small : width < 2 ^ 64) :
    number width (encodeNumber n) = .ok n := by
  have size := BigEndian.length_minimal_le fits
  unfold number encodeNumber
  rw [data_encodeData (by omega)]
  simp only
  rw [if_neg (by omega), BigEndian.value_minimal, if_neg]
  intro zero
  -- a minimal form has no zero in front
  obtain ⟨rest, form⟩ := List.head?_eq_some_iff.mp zero
  exact BigEndian.minimal_ne_zero_cons n rest form

theorem length_encodeData_le {bs : Bytes} (short : bs.length ≤ 55) :
    (encodeData bs).length ≤ bs.length + 1 := by
  unfold encodeData
  split
  · split <;> simp
  · unfold lengthHeader
    rw [if_pos short, List.length_append, List.length_singleton]
    omega

theorem encodeList_ne_nil (items : List Bytes) : encodeList items ≠ [] := by
  unfold encodeList
  exact List.append_ne_nil_of_left_ne_nil (lengthHeader_ne_nil _ _) _

/-- The header of a list adds `k + 1` bytes at most to items of fewer than `256 ^ k` bytes. -/
theorem length_encodeList_le (items : List Bytes) {k : Nat}
    (small : items.flatten.length < 256 ^ k) :
    (encodeList items).length ≤ items.flatten.length + k + 1 := by
  have := length_lengthHeader_le 0xC0 small
  unfold encodeList
  rw [List.length_append]
  omega

end StakeRelay.Rlp
