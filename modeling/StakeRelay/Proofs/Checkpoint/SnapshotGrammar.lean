/-
  StakeRelay.Proofs.Checkpoint.SnapshotGrammar — which lists of lists are snapshots.

  A snapshot is a list of lists of data. Whether such a list is one is told from the fields
  of each item by themselves: there are five, of which the key has 32 bytes and the address
  20, the key is the address behind twelve zero bytes, the flag is empty or a single one,
  the balance has at most sixteen bytes, leading zeros included, and the work count at most
  four, without leading zeros.

  The reader takes just these lists. Each of its steps is told here by when it succeeds and
  with what, and the steps of an item are then put together by `bind_ok_iff`.

  Main statements:
    * `decodeRecord_ok_iff` — which item is read as which record;
    * `decode_ok_iff` — which list of items is read as which records;
    * `decode_accepts_grammar` — so a list is read just if every item is a record, and is
      refused as malformed otherwise.
-/

import Mathlib.Data.List.Forall2
import StakeRelay.Proofs.Checkpoint.SnapshotBytes
import StakeRelay.Proofs.Rlp.Browsing

namespace StakeRelay.SnapshotForm

/-! ## §1. The grammar -/

/-- The bytes of an item with these fields. -/
def itemOf (fields : List Bytes) : Bytes := Rlp.encodeList (fields.map Rlp.encodeData)

/-- The bytes of a list of items. -/
def listOf (items : List (List Bytes)) : Bytes := Rlp.encodeList (items.map itemOf)

/-- The fields are those of a record. -/
def IsRecord : List Bytes → Prop
  | [identity, workBase, flag, locked, work] =>
    identity.length = 32 ∧ workBase.length = 20 ∧ identity = List.replicate 12 0 ++ workBase ∧
      (flag = [] ∨ flag = [1]) ∧ locked.length ≤ 16 ∧ work.length ≤ 4 ∧ work.head? ≠ some 0
  | _ => False

/-- The record holds what the fields stand for. -/
def Denotes : List Bytes → StakerRecord → Prop
  | [identity, workBase, flag, locked, work], r =>
    r.identity.bytes = identity ∧ r.workBase.bytes = workBase ∧ r.isActive = decide (flag = [1]) ∧
      r.lockedBalance.val = BigEndian.value locked ∧ r.workCount.toNat = BigEndian.value work
  | _, _ => False

instance : DecidablePred IsRecord
  | [_, _, _, _, _] => inferInstanceAs (Decidable (_ ∧ _))
  | [] | [_] | [_, _] | [_, _, _] | [_, _, _, _] | _ :: _ :: _ :: _ :: _ :: _ :: _ => isFalse id

/-! ## §2. Steps that succeed -/

theorem bind_ok_iff {α β : Type} {e : Except Failure α} {f : α → Except Failure β} {b : β} :
    e >>= f = .ok b ↔ ∃ a, e = .ok a ∧ f a = .ok b := by
  cases e with
  | error failure =>
    constructor
    · intro given
      cases given
    · rintro ⟨a, given, -⟩
      cases given
  | ok a =>
    constructor
    · exact fun given => ⟨a, rfl, given⟩
    · rintro ⟨a', same, given⟩
      cases same
      exact given

theorem ofRlp_ok_iff {α : Type} {e : Except Rlp.Fault α} {a : α} :
    ofRlp e = .ok a ↔ e = .ok a := by
  cases e with
  | error fault => exact ⟨nofun, nofun⟩
  | ok a' =>
    show Except.ok a' = .ok a ↔ _
    rw [Except.ok.injEq, Except.ok.injEq]

theorem identity_ok_iff {bs : Bytes} {k : AccountId} :
    AccountId.ofBytes bs = .ok k ↔ k.bytes = bs := by
  unfold AccountId.ofBytes AccountId.ofBytes?
  by_cases size : bs.length = 32
  · rw [dif_pos size]
    cases k with
    | mk bytes length_eq =>
      show Except.ok (⟨bs, size⟩ : AccountId) = _ ↔ bytes = bs
      rw [Except.ok.injEq, AccountId.mk.injEq]
      exact eq_comm
  · rw [dif_neg size]
    refine ⟨nofun, ?_⟩
    rintro rfl
    exact absurd k.length_eq size

theorem workBase_ok_iff {bs : Bytes} {a : Address} :
    Address.ofBytes bs = .ok a ↔ a.bytes = bs := by
  unfold Address.ofBytes Address.ofBytes?
  by_cases size : bs.length = 20
  · rw [dif_pos size]
    cases a with
    | mk bytes length_eq =>
      show Except.ok (⟨bs, size⟩ : Address) = _ ↔ bytes = bs
      rw [Except.ok.injEq, Address.mk.injEq]
      exact eq_comm
  · rw [dif_neg size]
    refine ⟨nofun, ?_⟩
    rintro rfl
    exact absurd a.length_eq size

theorem balance_ok_iff {bs : Bytes} {a : Amount} :
    balance bs = .ok a ↔ bs.length ≤ 16 ∧ a.val = BigEndian.value bs := by
  unfold balance
  by_cases wide : 16 < bs.length
  · rw [if_pos wide]
    refine ⟨nofun, fun given => ?_⟩
    have := given.1
    omega
  · rw [if_neg wide]
    -- sixteen bytes spell no more than an amount can hold
    have size : bs.length ≤ 16 := Nat.le_of_not_lt wide
    have small : BigEndian.value bs < 0x1_0000_0000_0000_0000_0000_0000_0000_0000 :=
      Nat.lt_of_lt_of_le (BigEndian.value_lt bs) (Nat.pow_le_pow_right (by decide) size)
    unfold Amount.ofNat
    rw [dif_pos small]
    show Except.ok (⟨BigEndian.value bs, small⟩ : Amount) = _ ↔ _
    rw [Except.ok.injEq, Fin.ext_iff]
    constructor
    · exact fun same => ⟨size, same.symm⟩
    · exact fun given => given.2.symm

theorem ofParts_ok_iff {identity : AccountId} {workBase : Address} {isActive : Bool}
    {locked : Amount} {work : UInt32} {r : StakerRecord} :
    StakerRecord.ofParts identity workBase isActive locked work = .ok r ↔
      identity.bytes = List.replicate 12 0 ++ workBase.bytes ∧
        ⟨identity, workBase, isActive, locked, work⟩ = r := by
  have key : identity = AccountId.ofAddress workBase ↔
      identity.bytes = List.replicate 12 0 ++ workBase.bytes := by
    cases identity with
    | mk bytes length_eq =>
      rw [← AccountId.bytes_ofAddress]
      exact AccountId.mk.injEq .. ▸ Iff.rfl
  unfold StakerRecord.ofParts
  rw [← key]
  by_cases same : identity = AccountId.ofAddress workBase
  · rw [if_pos same, Except.ok.injEq]
    exact (and_iff_right same).symm
  · rw [if_neg same]
    exact ⟨nofun, fun given => absurd given.1 same⟩

/-- A `number` of a bounded width is read from the data without leading zeros. -/
theorem number_ok_iff {width : Nat} {bs : Bytes} {n : Nat} (small : bs.length < 2 ^ 64) :
    Rlp.number width (Rlp.encodeData bs) = .ok n ↔
      bs.length ≤ width ∧ bs.head? ≠ some 0 ∧ BigEndian.value bs = n := by
  unfold Rlp.number
  rw [Rlp.data_encodeData small]
  simp only
  by_cases wide : width < bs.length
  · rw [if_pos wide]
    refine ⟨nofun, fun given => ?_⟩
    have := given.1
    omega
  rw [if_neg wide]
  by_cases zero : bs.head? = some 0
  · rw [if_pos zero]
    exact ⟨nofun, fun given => absurd zero given.2.1⟩
  · rw [if_neg zero, Except.ok.injEq]
    exact ⟨fun same => ⟨by omega, zero, same⟩, fun given => given.2.2⟩

theorem activity_ok_iff {n : Nat} {isActive : Bool} :
    activity n = .ok isActive ↔ n = isActive.toNat := by
  unfold activity
  by_cases zero : n = 0
  · rw [if_pos zero, zero, Except.ok.injEq]
    cases isActive <;> decide
  rw [if_neg zero]
  by_cases one : n = 1
  · rw [if_pos one, one, Except.ok.injEq]
    cases isActive <;> decide
  · rw [if_neg one]
    refine ⟨nofun, fun same => ?_⟩
    cases isActive
    · exact absurd same zero
    · exact absurd same one

/-- The flags are the empty data and a single `1`. -/
theorem flag_iff {flag : Bytes} {isActive : Bool} :
    (flag.length ≤ 1 ∧ flag.head? ≠ some 0 ∧ BigEndian.value flag = isActive.toNat) ↔
      (flag = [] ∨ flag = [1]) ∧ isActive = decide (flag = [1]) := by
  cases flag with
  | nil => cases isActive <;> decide
  | cons b rest =>
    cases rest with
    | cons c rest => simp
    | nil =>
      have zero : b = 0 ↔ b.toNat = 0 := UInt8.toNat_inj.symm
      have one : b = 1 ↔ b.toNat = 1 := UInt8.toNat_inj.symm
      rw [BigEndian.value_singleton]
      cases isActive
      · simp [zero]
      · simp [zero, one]
        omega

/-! ## §3. Items -/

section Items

variable {fields : List Bytes} {r : StakerRecord}

theorem whole_itemOf_fields (small : ∀ bs ∈ fields, bs.length < 2 ^ 64) :
    ∀ item ∈ fields.map Rlp.encodeData, Rlp.Whole item := by
  intro item member
  obtain ⟨bs, here, rfl⟩ := List.mem_map.mp member
  exact Rlp.whole_encodeData (small bs here)

/-- Data are no shorter once they are written. -/
theorem length_le_encodeData (bs : Bytes) : bs.length ≤ (Rlp.encodeData bs).length := by
  unfold Rlp.encodeData
  split
  · split <;> simp
  · rw [List.length_append]
    omega

theorem length_le_flatten {α : Type} {xs : List α} {xss : List (List α)} (member : xs ∈ xss) :
    xs.length ≤ xss.flatten.length := (List.sublist_flatten_of_mem member).length_le

/-- The fields of an item that has a byte form have one, too. -/
theorem field_lt (small : (fields.map Rlp.encodeData).flatten.length < 2 ^ 64) :
    ∀ bs ∈ fields, bs.length < 2 ^ 64 := by
  intro bs member
  have inside := length_le_flatten (List.mem_map_of_mem (f := Rlp.encodeData) member)
  have := length_le_encodeData bs
  omega

/-- The fields are what `Rlp.listItems` reads of an item. -/
theorem listItems_itemOf (small : (fields.map Rlp.encodeData).flatten.length < 2 ^ 64) :
    Rlp.listItems (itemOf fields) = .ok (fields.map Rlp.encodeData) :=
  Rlp.listItems_encodeList small (whole_itemOf_fields (field_lt small))

/-- An item is read as a record just if its fields are those of a record (`IsRecord`), and as
    the record that they stand for (`Denotes`). -/
theorem decodeRecord_ok_iff (small : (fields.map Rlp.encodeData).flatten.length < 2 ^ 64) :
    decodeRecord (itemOf fields) = .ok r ↔ IsRecord fields ∧ Denotes fields r := by
  have short := field_lt small
  unfold decodeRecord
  rw [listItems_itemOf small, ofRlp_ok]
  -- with any other number of fields, nothing is read and nothing is a record
  rcases fields with _ | ⟨identity, _ | ⟨workBase, _ | ⟨flag, _ | ⟨locked, _ | ⟨work,
    _ | ⟨more, rest⟩⟩⟩⟩⟩⟩
  case cons.cons.cons.cons.cons.nil =>
    have identity_lt := short identity (by simp)
    have workBase_lt := short workBase (by simp)
    have flag_lt := short flag (by simp)
    have locked_lt := short locked (by simp)
    have work_lt := short work (by simp)
    simp only [List.map_cons, List.map_nil, Rlp.data_encodeData identity_lt,
      Rlp.data_encodeData workBase_lt, Rlp.data_encodeData locked_lt, bind_ok_iff, ofRlp_ok_iff,
      Except.ok.injEq, exists_eq_left', number_ok_iff flag_lt, number_ok_iff work_lt,
      activity_ok_iff, identity_ok_iff, workBase_ok_iff, balance_ok_iff, ofParts_ok_iff]
    constructor
    · rintro ⟨_, marked, _, ⟨narrow, minimal, rfl⟩, isActive, rfl, key, rfl, address, rfl, amount,
        ⟨fits, held⟩, keyed, rfl⟩
      obtain ⟨flags, active⟩ := flag_iff.mp marked
      refine ⟨⟨key.length_eq, address.length_eq, keyed, flags, fits, narrow, minimal⟩, rfl, rfl,
        active, held, ?_⟩
      -- four bytes spell no more than a work count can hold
      show (UInt32.ofNat (BigEndian.value work)).toNat = _
      have small : BigEndian.value work < 256 ^ 4 :=
        Nat.lt_of_lt_of_le (BigEndian.value_lt work) (Nat.pow_le_pow_right (by decide) narrow)
      rw [UInt32.toNat_ofNat']
      omega
    · rintro ⟨⟨-, -, keyed, flags, fits, narrow, minimal⟩, rfl, rfl, active, held, count⟩
      refine ⟨_, flag_iff.mpr ⟨flags, active⟩, _, ⟨narrow, minimal, rfl⟩, r.isActive, rfl,
        r.identity, rfl, r.workBase, rfl, r.lockedBalance, ⟨fits, held⟩, keyed, ?_⟩
      rw [← count, UInt32.ofNat_toNat]
  all_goals exact ⟨nofun, fun given => given.1.elim⟩

/-- The fields of a record stand for one (`Denotes`). -/
theorem IsRecord.exists_denotes (record : IsRecord fields) : ∃ r, Denotes fields r := by
  unfold IsRecord at record
  split at record
  · rename_i identity workBase flag locked work
    obtain ⟨identity_eq, workBase_eq, -, -, fits, narrow, -⟩ := record
    have locked_lt : BigEndian.value locked < 0x1_0000_0000_0000_0000_0000_0000_0000_0000 :=
      Nat.lt_of_lt_of_le (BigEndian.value_lt locked) (Nat.pow_le_pow_right (by decide) fits)
    have work_lt : BigEndian.value work < 256 ^ 4 :=
      Nat.lt_of_lt_of_le (BigEndian.value_lt work) (Nat.pow_le_pow_right (by decide) narrow)
    refine ⟨⟨⟨identity, identity_eq⟩, ⟨workBase, workBase_eq⟩, decide (flag = [1]),
      ⟨BigEndian.value locked, locked_lt⟩, UInt32.ofNat (BigEndian.value work)⟩,
      rfl, rfl, rfl, rfl, ?_⟩
    show (UInt32.ofNat (BigEndian.value work)).toNat = _
    rw [UInt32.toNat_ofNat']
    omega
  · exact record.elim

end Items

/-! ## §4. Lists of items -/

section Lists

variable {items : List (List Bytes)} {records : List StakerRecord}

/-- Items are read one by one by `decodeRecord`, all of them or none. -/
theorem decodeItems_ok_iff {items : List Bytes} :
    decodeItems items = .ok records ↔
      List.Forall₂ (fun item r => decodeRecord item = .ok r) items records := by
  induction items generalizing records with
  | nil =>
    show Except.ok [] = .ok records ↔ _
    rw [Except.ok.injEq, List.forall₂_nil_left_iff]
    exact eq_comm
  | cons item rest ih =>
    unfold decodeItems
    simp only [bind_ok_iff, ih, pure, Except.pure, Except.ok.injEq, List.forall₂_cons_left_iff]
    constructor
    · rintro ⟨r, first, later, others, rfl⟩
      exact ⟨r, later, first, others, rfl⟩
    · rintro ⟨r, later, first, others, rfl⟩
      exact ⟨r, first, later, others, rfl⟩

/-- The items of a list that has a byte form have one, too. -/
theorem item_lt (small : (items.map itemOf).flatten.length < 2 ^ 64) :
    ∀ fields ∈ items, (fields.map Rlp.encodeData).flatten.length < 2 ^ 64 := by
  intro fields member
  have inside := length_le_flatten (List.mem_map_of_mem (f := itemOf) member)
  have header : (fields.map Rlp.encodeData).flatten.length ≤ (itemOf fields).length := by
    unfold itemOf Rlp.encodeList
    rw [List.length_append]
    omega
  omega

/-- The items are what `Rlp.listItems` reads of a list. -/
theorem listItems_listOf (small : (items.map itemOf).flatten.length < 2 ^ 64) :
    Rlp.listItems (listOf items) = .ok (items.map itemOf) := by
  refine Rlp.listItems_encodeList small fun item member => ?_
  obtain ⟨fields, here, rfl⟩ := List.mem_map.mp member
  exact Rlp.whole_encodeList (item_lt small fields here)

/-- A list of items is read just if each of them is a record (`IsRecord`), and as the records
    that they stand for (`Denotes`), in their order. -/
theorem decode_ok_iff (small : (items.map itemOf).flatten.length < 2 ^ 64) :
    decode (listOf items) = .ok records ↔
      (∀ fields ∈ items, IsRecord fields) ∧ List.Forall₂ Denotes items records := by
  have short := item_lt small
  unfold decode
  rw [listItems_listOf small]
  show decodeItems (items.map itemOf) = _ ↔ _
  rw [decodeItems_ok_iff, List.forall₂_map_left_iff, ← List.forall₂_and_left]
  clear small
  -- the list is read item by item, and an item by itself
  induction items generalizing records with
  | nil => rw [List.forall₂_nil_left_iff, List.forall₂_nil_left_iff]
  | cons fields rest ih =>
    have first : (fields.map Rlp.encodeData).flatten.length < 2 ^ 64 :=
      short fields List.mem_cons_self
    have others := fun records => @ih records fun fields member =>
      short fields (List.mem_cons_of_mem _ member)
    simp only [List.forall₂_cons_left_iff, decodeRecord_ok_iff first, others]

/-- Items that are records stand for records, one for each. -/
theorem exists_denoted (grammar : ∀ fields ∈ items, IsRecord fields) :
    ∃ records, List.Forall₂ Denotes items records := by
  induction items with
  | nil => exact ⟨[], .nil⟩
  | cons fields rest ih =>
    obtain ⟨r, first⟩ := (grammar fields List.mem_cons_self).exists_denotes
    obtain ⟨records, later⟩ := ih fun fields member => grammar fields (List.mem_cons_of_mem _ member)
    exact ⟨r :: records, .cons first later⟩

/-- A list of lists of data, written in the one complete form that it has (`listOf`), is read as
    a snapshot just if each of its items is a record by the grammar (`IsRecord`). What is then
    read is one record for each item, in their order, with what its fields stand for
    (`Denotes`). In every other case all of it is refused as malformed. Both passes through the
    bytes (`Rlp.Pass`) find the items. -/
theorem decode_accepts_grammar (items : List (List Bytes))
    (small : (listOf items).length < 2 ^ 64) :
    ((∃ records, decode (listOf items) = .ok records) ↔ ∀ fields ∈ items, IsRecord fields) ∧
      (∀ records, decode (listOf items) = .ok records → List.Forall₂ Denotes items records) ∧
      ((¬ ∀ fields ∈ items, IsRecord fields) →
        ∃ fault, decode (listOf items) = .error (.decode fault)) ∧
      ∃ mark mark', Rlp.Pass (listOf items) 0 none (items.map itemOf) mark ∧
        Rlp.Pass (listOf items) 0 mark (items.map itemOf) mark' := by
  have payload : (items.map itemOf).flatten.length < 2 ^ 64 := by
    unfold listOf Rlp.encodeList at small
    rw [List.length_append] at small
    omega
  have accepted : (∃ records, decode (listOf items) = .ok records) ↔
      ∀ fields ∈ items, IsRecord fields := by
    constructor
    · rintro ⟨records, read⟩
      exact ((decode_ok_iff payload).mp read).1
    · intro grammar
      obtain ⟨records, denoted⟩ := exists_denoted grammar
      exact ⟨records, (decode_ok_iff payload).mpr ⟨grammar, denoted⟩⟩
  refine ⟨accepted, fun records read => ((decode_ok_iff payload).mp read).2, fun foreign => ?_, ?_⟩
  · cases read : decode (listOf items) with
    | ok records => exact absurd (accepted.mp ⟨records, read⟩) foreign
    | error failure =>
      -- bytes have no storage that could refuse
      obtain ⟨fault, rfl⟩ := faultsOfForm_decode _ failure read
      exact ⟨fault, rfl⟩
  · obtain ⟨counted, mark, mark', first, second, same⟩ :=
      Rlp.exists_passes (listItems_listOf payload)
    obtain ⟨h, header, total⟩ : ∃ h, Rlp.header? (listOf items) = .ok h ∧
        h.total = (listOf items).length := by
      have whole := Rlp.whole_encodeList payload []
      rwa [List.append_nil] at whole
    obtain rfl := same h header total
    exact ⟨mark, mark', first, second⟩

end Lists

/-- An item of one staker, whose balance may have any form and whose work count is given. -/
def spelled (locked work : Bytes) : List Bytes :=
  [List.replicate 12 0 ++ List.replicate 20 1, List.replicate 20 1, [1], locked, work]

theorem length_spelled :
    (listOf [spelled [0, 0, 5] [1, 0], spelled [] []]).length < 2 ^ 64 ∧
      (listOf [spelled [5] [1], spelled [5] [0, 1]]).length < 2 ^ 64 := by
  decide +kernel

/-- Zeros in front are taken in a balance, and in a work count they are not. -/
theorem leading_zeros_in_a_balance_only :
    (∃ records, decode (listOf [spelled [0, 0, 5] [1, 0], spelled [] []]) = .ok records) ∧
      ∃ fault, decode (listOf [spelled [5] [1], spelled [5] [0, 1]]) = .error (.decode fault) := by
  obtain ⟨few, few'⟩ := length_spelled
  constructor
  · exact (decode_accepts_grammar _ few).1.mpr (by decide)
  · exact (decode_accepts_grammar _ few').2.2.1 (by decide)

end StakeRelay.SnapshotForm
