/-
  StakeRelay.Proofs.Rlp.Extent — how many bytes items take, in any bytes at all.

  Nothing is supposed here of the bytes that are walked. A walk still goes from one complete
  item to the next, so the items that it finds lie one behind the other within the bytes and
  none of them reaches into another. An item with data takes their bytes and, unless they are
  a single one, at least one byte more for its header.

  Main statements:
    * `form_of_header?` — the three forms of a header;
    * `flatten_sequence_front` — the items of a walk lie one behind the other;
    * `complete_of_mem_sequence` — each of them is complete;
    * `Complete.length_of_data` — how many bytes an item with data takes at least.
-/

import StakeRelay.Proofs.Rlp.Browsing

namespace StakeRelay.Rlp

variable {bs item : Bytes} {h : Header}

/-! ## §1. Headers -/

/-- What a header tells of the payload behind it. -/
inductive Header.Form : Header → Prop
  /-- A byte that stands for itself has no header. -/
  | single : Form ⟨0, 1⟩
  /-- A short payload has one of a single byte. -/
  | short {n : Nat} (few : n ≤ 55) : Form ⟨1, n⟩
  /-- A long payload has a longer one. -/
  | long {k n : Nat} (digits : 0 < k) (many : 55 < n) : Form ⟨1 + k, n⟩

theorem form_of_longHeader {k : Nat} {rest : Bytes} (digits : 0 < k)
    (read : longHeader k rest = .ok h) : h.Form := by
  unfold longHeader at read
  split at read
  · cases read
  split at read
  · cases read
  split at read
  · cases read
  simp only at read
  split at read
  · cases read
  · injection read with same
    subst same
    exact .long digits (by omega)

theorem form_of_announced {b : UInt8} {rest : Bytes} (read : announced b rest = .ok h) :
    h.Form := by
  unfold announced at read
  simp only at read
  split at read
  · injection read with same
    subst same
    exact .single
  split at read
  · injection read with same
    subst same
    exact .short (by omega)
  split at read
  · exact form_of_longHeader (by omega) read
  split at read
  · injection read with same
    subst same
    exact .short (by omega)
  · exact form_of_longHeader (by omega) read

theorem announced_of_header? {b : UInt8} {rest : Bytes} (read : header? (b :: rest) = .ok h) :
    announced b rest = .ok h ∧ h.total ≤ rest.length + 1 := by
  unfold header? at read
  simp only at read
  split at read
  · cases read
  rename_i h' found
  split at read
  · cases read
  · injection read with same
    subst same
    exact ⟨found, by omega⟩

theorem form_of_header? (read : header? bs = .ok h) : h.Form := by
  cases bs with
  | nil => cases read
  | cons b rest => exact form_of_announced (announced_of_header? read).1

/-- What stands behind the item has no part in its `longHeader`. -/
theorem longHeader_take {k : Nat} {rest : Bytes} (read : longHeader k rest = .ok h) {m : Nat}
    (enough : h.total ≤ m + 1) : longHeader k (rest.take m) = .ok h := by
  unfold Header.total at enough
  cases rest with
  | nil => cases read
  | cons first tail =>
    unfold longHeader at read
    split at read
    · cases read
    rename_i here
    injection here with here here'
    subst here here'
    split at read
    · cases read
    rename_i pos
    split at read
    · cases read
    rename_i long
    simp only at read
    split at read
    · cases read
    rename_i several
    injection read with same
    subst same
    simp only at enough
    -- the digits of the length lie before the cut, so the same ones are read
    obtain ⟨m, rfl⟩ : ∃ n, m = n + 1 := ⟨m - 1, by omega⟩
    have front : ((first :: tail).take (m + 1)).take k = (first :: tail).take k := by
      rw [List.take_take, Nat.min_eq_left (by omega)]
    have reach : ¬ ((first :: tail).take (m + 1)).length < k := by
      rw [List.length_take]
      omega
    unfold longHeader
    rw [List.take_succ_cons]
    simp only
    rw [if_neg pos, ← List.take_succ_cons, if_neg reach, front, if_neg several]

theorem announced_take {b : UInt8} {rest : Bytes} (read : announced b rest = .ok h) {m : Nat}
    (enough : h.total ≤ m + 1) : announced b (rest.take m) = .ok h := by
  unfold announced at read ⊢
  simp only at read ⊢
  split at read
  · rename_i single
    rwa [if_pos single]
  rename_i several
  rw [if_neg several]
  split at read
  · rename_i shortData
    rwa [if_pos shortData]
  rename_i beyond
  rw [if_neg beyond]
  split at read
  · rename_i longData
    rw [if_pos longData]
    exact longHeader_take read enough
  rename_i list
  rw [if_neg list]
  split at read
  · rename_i shortList
    rwa [if_pos shortList]
  · rename_i longList
    rw [if_neg longList]
    exact longHeader_take read enough

/-! ## §2. Complete items -/

/-- The bytes are those of one item, and no more. -/
def Complete (item : Bytes) : Prop := ∃ h, header? item = .ok h ∧ h.total = item.length

/-- The item at the front of the bytes, cut off behind its end, is `Complete`. -/
theorem complete_take (read : header? bs = .ok h) : Complete (bs.take h.total) := by
  have within := total_le_of_header? read
  have pos := total_pos_of_header? read
  cases bs with
  | nil => cases read
  | cons b rest =>
    obtain ⟨found, reach⟩ := announced_of_header? read
    obtain ⟨m, size⟩ : ∃ m, h.total = m + 1 := ⟨h.total - 1, by omega⟩
    have length : ((b :: rest).take h.total).length = h.total := List.length_take_of_le within
    refine ⟨h, ?_, length.symm⟩
    rw [size, List.take_succ_cons] at length ⊢
    refine header?_of_announced (announced_take found (by omega)) ?_
    rw [List.length_cons] at length
    omega

/-- A walk by `sequence` finds complete items only. -/
theorem complete_of_mem_sequence (member : item ∈ sequence bs) : Complete item := by
  induction bs using sequence.induct with
  | case1 bs fault broken =>
    rw [sequence_of_error broken] at member
    cases member
  | case2 bs h read ih =>
    rw [sequence_of_ok read] at member
    rcases List.mem_cons.mp member with rfl | later
    · exact complete_take read
    · exact ih later

/-- The items of a walk by `sequence` lie one behind the other at the front of the bytes. -/
theorem flatten_sequence_front (bs : Bytes) : (sequence bs).flatten <+: bs := by
  induction bs using sequence.induct with
  | case1 bs fault broken =>
    rw [sequence_of_error broken]
    exact List.nil_prefix
  | case2 bs h read ih =>
    rw [sequence_of_ok read, List.flatten_cons]
    conv => rhs; rw [← List.take_append_drop h.total bs]
    exact List.prefix_append_right_inj _ |>.mpr ih

/-- The items of a list are `Complete`, and lie one behind the other within its bytes. -/
theorem of_listItems {items : List Bytes} (read : listItems bs = .ok items) :
    (∀ item ∈ items, Complete item) ∧ items.flatten <:+: bs := by
  unfold listItems at read
  split at read
  · split at read
    · injection read with same
      subst same
      exact ⟨nofun, List.nil_infix⟩
    · injection read with same
      subst same
      exact ⟨fun item => complete_of_mem_sequence,
        (flatten_sequence_front _).isInfix.trans (List.drop_suffix _ bs).isInfix⟩
  · cases read

namespace Complete

/-- No item is empty. -/
theorem length_pos (complete : Complete item) : 0 < item.length := by
  obtain ⟨h, read, total⟩ := complete
  exact total ▸ total_pos_of_header? read

/-- Data that are not a single byte stand behind a header. -/
theorem length_of_data (complete : Complete item) {bytes : Bytes} (read : data item = .ok bytes)
    (several : 1 < bytes.length) : bytes.length + 1 ≤ item.length := by
  obtain ⟨h, found, total⟩ := complete
  have payload : bytes = (item.drop h.size).take h.payload := by
    unfold data at read
    rw [found] at read
    split at read
    · cases read
    simp only at read
    split at read
    · split at read
      · cases read
      · exact (Except.ok.inj read).symm
    · exact (Except.ok.inj read).symm
  have size := congrArg List.length payload
  rw [List.length_take] at size
  unfold Header.total at total
  cases form_of_header? found with
  | single => simp only at size; omega
  | short few => simp only at size total; omega
  | long digits many => simp only at size total; omega

/-- A list with more than 55 bytes of items has a header of at least two bytes. -/
theorem length_of_listItems (complete : Complete item) {items : List Bytes}
    (read : listItems item = .ok items) (many : 55 < items.flatten.length) :
    items.flatten.length + 2 ≤ item.length := by
  obtain ⟨h, found, total⟩ := complete
  have within : items.flatten.length ≤ h.payload := by
    unfold listItems at read
    split at read
    · rw [found] at read
      injection read with same
      subst same
      have reach := (flatten_sequence_front (item.drop h.size)).length_le
      rw [List.length_drop] at reach
      unfold Header.total at total
      omega
    · cases read
  unfold Header.total at total
  cases form_of_header? found with
  | single => simp only at within; omega
  | short few => simp only at within; omega
  | long digits many => simp only at within total; omega

end Complete

end StakeRelay.Rlp
