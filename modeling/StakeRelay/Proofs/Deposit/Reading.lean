/-
  StakeRelay.Proofs.Deposit.Reading — which logs hold a deposit.

  A log is read by position. The second topic holds the staker behind twelve zero bytes, and
  the first two words of the data hold the amount and the number of periods, each of them in
  the lower half of its word. Whatever else the log holds plays no part: its block, its other
  topics, the data behind the second word.

  A half that should be zero and is not fails the log. So a number that does not fit is
  refused, and none is ever cut.

  Main statements:
    * `Amount.ofWordBytes_ok_iff` — which words hold an amount;
    * `DepositEvent.reads` — all that can become of a log;
    * `DepositEvent.ofLog_toLog` — what the staking contract writes is read back;
    * `deposit_logs_are_read_exactly` — which logs hold a deposit, and which one.
-/

import StakeRelay.Deposit.Event
import StakeRelay.Proofs.Number.BigEndian

namespace StakeRelay

/-! ## §1. Amounts in words -/

namespace Amount

variable {bs : Bytes} {n : Nat} {a : Amount}

theorem ofNat_ok_iff : Amount.ofNat n = .ok a ↔ a.val = n := by
  unfold Amount.ofNat
  split
  · rw [Except.ok.injEq, Fin.ext_iff]
    exact eq_comm
  · next large =>
    refine iff_of_false (fun told => nomatch told) ?_
    rintro rfl
    exact large a.isLt

/-- A word holds an amount if its upper half is zero, and the amount is in the lower half,
    `bs.drop 16`. -/
theorem ofWordBytes_ok_iff : Amount.ofWordBytes bs = .ok a ↔
    bs.length = 32 ∧ bs.take 16 = List.replicate 16 0 ∧ a.val = BigEndian.value (bs.drop 16) := by
  unfold Amount.ofWordBytes
  split
  · next size =>
    have upper : (bs.take 16).length = 16 := by rw [List.length_take, size]; rfl
    have lower : (bs.drop 16).length = 16 := by rw [List.length_drop, size]
    have small : a.val < 256 ^ (bs.drop 16).length := by
      rw [lower]
      exact a.isLt
    have halves : a.val = BigEndian.value (bs.take 16 ++ bs.drop 16) ↔ _ :=
      BigEndian.eq_value_append_iff small
    rw [List.take_append_drop, upper] at halves
    rw [ofNat_ok_iff, halves, and_iff_right size]
  · next size => exact iff_of_false (fun told => nomatch told) fun holds => size holds.1

/-- A word that holds none has something in its upper half, and the fault tells its number
    (`.beyond128`). -/
theorem ofWordBytes_error {fault : DecodeFault} (size : bs.length = 32)
    (told : Amount.ofWordBytes bs = .error fault) :
    bs.take 16 ≠ List.replicate 16 0 ∧ fault = .beyond128 (BigEndian.value bs) := by
  constructor
  · intro upper
    have lower : (bs.drop 16).length = 16 := by rw [List.length_drop, size]
    have small := BigEndian.value_lt (bs.drop 16)
    rw [lower] at small
    have holds := ofWordBytes_ok_iff (a := ⟨BigEndian.value (bs.drop 16), small⟩).mpr
      ⟨size, upper, rfl⟩
    rw [told] at holds
    cases holds
  · unfold Amount.ofWordBytes Amount.ofNat at told
    rw [if_pos size] at told
    split at told
    · cases told
    · exact (Except.error.inj told).symm

section Slice

variable {data : Bytes} {p : Nat}

theorem length_slice (size : p + 32 ≤ data.length) : ((data.drop p).take 32).length = 32 := by
  rw [List.length_take, List.length_drop]
  omega

/-- The same for the word that starts at position `p` of some data. -/
theorem ofSlice_ok_iff (size : p + 32 ≤ data.length) :
    Amount.ofWordBytes ((data.drop p).take 32) = .ok a ↔
      (data.drop p).take 16 = List.replicate 16 0 ∧
        a.val = BigEndian.value ((data.drop (p + 16)).take 16) := by
  rw [ofWordBytes_ok_iff, and_iff_right (length_slice size), List.take_take, List.drop_take,
    List.drop_drop]
  rfl

theorem ofSlice_error {fault : DecodeFault} (size : p + 32 ≤ data.length)
    (told : Amount.ofWordBytes ((data.drop p).take 32) = .error fault) :
    (data.drop p).take 16 ≠ List.replicate 16 0 ∧
      fault = .beyond128 (BigEndian.value ((data.drop p).take 32)) := by
  have large := ofWordBytes_error (length_slice size) told
  rwa [List.take_take] at large

end Slice

/-- The amount of a 64-bit number. -/
def ofUInt64 (n : UInt64) : Amount := ⟨n.toNat, Nat.lt_trans n.toNat_lt (by decide)⟩

end Amount

theorem Word.length_ofUInt64 (n : UInt64) : (Word.ofUInt64 n).length = 32 :=
  BigEndian.length_padded (Nat.lt_trans n.toNat_lt (by decide))

/-- A 64-bit number is read back from its word. -/
theorem Amount.ofWordBytes_ofUInt64 (n : UInt64) :
    Amount.ofWordBytes (Word.ofUInt64 n) = .ok (.ofUInt64 n) := by
  unfold Amount.ofWordBytes
  rw [if_pos (Word.length_ofUInt64 n), Amount.ofNat_ok_iff, Word.ofUInt64, BigEndian.value_padded]
  rfl

/-! ## §2. Logs -/

/-- The log holds a deposit of the staker in the given word. -/
structure RawLog.IsDeposit (log : RawLog) (word : Word) : Prop where
  staker : log.topics[1]? = some word
  address : word.bytes.take 12 = List.replicate 12 0
  size : 64 ≤ log.data.length
  value : log.data.take 16 = List.replicate 16 0
  periods : (log.data.drop 32).take 16 = List.replicate 16 0

namespace DepositEvent

/-- The deposit of the staker in the given word, with the numbers in the lower halves. -/
structure IsIn (event : DepositEvent) (log : RawLog) (word : Word) : Prop where
  staker : event.staker.bytes = word.bytes.drop 12
  value : event.value.val = BigEndian.value ((log.data.drop 16).take 16)
  periods : event.periods.val = BigEndian.value ((log.data.drop 48).take 16)

/-- What becomes of a log: the first thing that is wrong with it, or its deposit. -/
inductive Reads (log : RawLog) : Except DecodeFault DepositEvent → Prop
  | unnamed (missing : log.topics[1]? = none) : Reads log (.error .noStakerTopic)
  | short {word : Word} (staker : log.topics[1]? = some word) (short : log.data.length < 64) :
      Reads log (.error (.shortDeposit log.data.length))
  | unpadded {word : Word} (staker : log.topics[1]? = some word) (size : 64 ≤ log.data.length)
      (unpadded : word.bytes.take 12 ≠ List.replicate 12 0) :
      Reads log (.error (.unpaddedWord word))
  | value {word : Word} (staker : log.topics[1]? = some word) (size : 64 ≤ log.data.length)
      (address : word.bytes.take 12 = List.replicate 12 0)
      (large : log.data.take 16 ≠ List.replicate 16 0) :
      Reads log (.error (.beyond128 (BigEndian.value (log.data.take 32))))
  | periods {word : Word} (staker : log.topics[1]? = some word) (size : 64 ≤ log.data.length)
      (address : word.bytes.take 12 = List.replicate 12 0)
      (value : log.data.take 16 = List.replicate 16 0)
      (large : (log.data.drop 32).take 16 ≠ List.replicate 16 0) :
      Reads log (.error (.beyond128 (BigEndian.value ((log.data.drop 32).take 32))))
  | deposit {word : Word} {event : DepositEvent} (holds : log.IsDeposit word)
      (isIn : event.IsIn log word) : Reads log (.ok event)

variable {log log' : RawLog} {event : DepositEvent} {word : Word}

theorem ofLog_of_unnamed (missing : log.topics[1]? = none) :
    ofLog log = .error .noStakerTopic := by
  unfold ofLog
  split
  · next topics => rw [topics] at missing; cases missing
  · rfl

theorem ofLog_of_named (staker : log.topics[1]? = some word) :
    ofLog log =
      if log.data.length < 64 then .error (.shortDeposit log.data.length)
      else if word.bytes.take 12 = List.replicate 12 0 then do
        let value ← Amount.ofWordBytes (log.data.take 32)
        let periods ← Amount.ofWordBytes ((log.data.drop 32).take 32)
        return ⟨Address.ofLowerBytes word, value, periods⟩
      else .error (.unpaddedWord word) := by
  obtain ⟨topic, rest, topics⟩ : ∃ topic rest, log.topics = topic :: word :: rest := by
    match log.topics, staker with
    | topic :: _ :: rest, rfl => exact ⟨topic, rest, rfl⟩
  have zeros : (word.bytes.take 12).all (· = 0) = true ↔
      word.bytes.take 12 = List.replicate 12 0 := by
    have size : (word.bytes.take 12).length = 12 := by rw [List.length_take, word.length_eq]; rfl
    rw [List.eq_replicate_iff, and_iff_right size, List.all_eq_true]
    exact forall₂_congr fun _ _ => decide_eq_true_iff
  unfold ofLog
  rw [topics]
  simp only [zeros]
  rfl

theorem reads (log : RawLog) : Reads log (ofLog log) := by
  -- one case for each check, in the order in which the log is looked at
  cases staker : log.topics[1]? with
  | none =>
    rw [ofLog_of_unnamed staker]
    exact .unnamed staker
  | some word =>
    rw [ofLog_of_named staker]
    split
    · next short => exact .short staker short
    next long =>
    have size : 64 ≤ log.data.length := Nat.le_of_not_lt long
    split
    · next address =>
      cases first : Amount.ofWordBytes (log.data.take 32) with
      | error fault =>
        obtain ⟨large, rfl⟩ := Amount.ofSlice_error (p := 0) (by omega) first
        exact .value staker size address large
      | ok amount =>
        obtain ⟨value, amount_eq⟩ := (Amount.ofSlice_ok_iff (p := 0) (by omega)).mp first
        cases second : Amount.ofWordBytes ((log.data.drop 32).take 32) with
        | error fault =>
          obtain ⟨large, rfl⟩ := Amount.ofSlice_error (by omega) second
          exact .periods staker size address value large
        | ok count =>
          obtain ⟨periods, count_eq⟩ := (Amount.ofSlice_ok_iff (by omega)).mp second
          exact .deposit ⟨staker, address, size, value, periods⟩ ⟨rfl, amount_eq, count_eq⟩
    · next unpadded => exact .unpadded staker size unpadded

/-! ## §3. Deposits in logs -/

/-- A log in which something is wrong holds no deposit. -/
theorem Reads.not_isDeposit {fault : DecodeFault} (reads : Reads log (.error fault)) :
    ¬ log.IsDeposit word := by
  intro holds
  cases reads with
  | unnamed missing => cases missing.symm.trans holds.staker
  | short staker short => exact absurd holds.size (Nat.not_le_of_lt short)
  | unpadded staker size unpadded =>
    obtain rfl := Option.some.inj (staker.symm.trans holds.staker)
    exact unpadded holds.address
  | value staker size address large => exact large holds.value
  | periods staker size address value large => exact large holds.periods

/-- There is no other deposit in a log than the one that is there (`IsIn`). -/
theorem IsIn.unique {event' : DepositEvent} (this : event.IsIn log word)
    (that : event'.IsIn log word) : event = event' := by
  obtain ⟨⟨staker, size⟩, value, periods⟩ := event
  obtain ⟨⟨staker', size'⟩, value', periods'⟩ := event'
  obtain rfl : staker = staker' := this.staker.trans that.staker.symm
  obtain rfl : value = value' := Fin.ext (this.value.trans that.value.symm)
  obtain rfl : periods = periods' := Fin.ext (this.periods.trans that.periods.symm)
  rfl

theorem ofLog_ok_iff :
    ofLog log = .ok event ↔ ∃ word, log.IsDeposit word ∧ event.IsIn log word := by
  constructor
  · intro told
    have reads := reads log
    rw [told] at reads
    cases reads with
    | deposit holds isIn => exact ⟨_, holds, isIn⟩
  · rintro ⟨word, holds, isIn⟩
    have reads := reads log
    cases told : ofLog log with
    | error fault =>
      rw [told] at reads
      exact absurd holds reads.not_isDeposit
    | ok event' =>
      rw [told] at reads
      cases reads with
      | deposit holds' isIn' =>
        obtain rfl := Option.some.inj (holds.staker.symm.trans holds'.staker)
        rw [isIn.unique isIn']

theorem ofLog_error_iff :
    (∃ fault, ofLog log = .error fault) ↔ ¬ ∃ word, log.IsDeposit word := by
  constructor
  · rintro ⟨fault, told⟩ ⟨word, holds⟩
    have reads := reads log
    rw [told] at reads
    exact reads.not_isDeposit holds
  · intro none
    cases told : ofLog log with
    | error fault => exact ⟨fault, rfl⟩
    | ok event =>
      obtain ⟨word, holds, -⟩ := ofLog_ok_iff.mp told
      exact absurd ⟨word, holds⟩ none

/-- Nothing of a log is looked at by `ofLog` but its second topic and the first two words of its
    data. -/
theorem ofLog_congr (staker : log.topics[1]? = log'.topics[1]?)
    (front : log.data.take 64 = log'.data.take 64) : ofLog log = ofLog log' := by
  have sizes : min 64 log.data.length = min 64 log'.data.length := by
    rw [← List.length_take, ← List.length_take, front]
  have words (p : Nat) (inside : p + 32 ≤ 64) :
      (log.data.drop p).take 32 = (log'.data.drop p).take 32 := by
    have := congrArg (fun bs => (bs.drop p).take 32) front
    simp only [List.drop_take, List.take_take] at this
    rwa [Nat.min_eq_left (by omega)] at this
  cases named : log.topics[1]? with
  | none => rw [ofLog_of_unnamed named, ofLog_of_unnamed (staker.symm.trans named)]
  | some word =>
    rw [ofLog_of_named named, ofLog_of_named (staker.symm.trans named)]
    by_cases short : log.data.length < 64
    · -- the data are all of the first two words, also if these are cut
      rw [List.take_of_length_le (by omega), List.take_of_length_le (by omega)] at front
      rw [front]
    · have long : ¬ log'.data.length < 64 := by omega
      have first : log.data.take 32 = log'.data.take 32 := words 0 (by decide)
      rw [if_neg short, if_neg long, first, words 32 (Nat.le_refl _)]

/-- What the staking contract writes (`toLog`) is read back by `ofLog`. -/
theorem ofLog_toLog (topic : Word) (height : UInt64) (staker : Address) (value periods : UInt64) :
    ofLog (toLog topic height staker value periods) =
      .ok ⟨staker, .ofUInt64 value, .ofUInt64 periods⟩ := by
  have named : (toLog topic height staker value periods).topics[1]? = some staker.toWord := rfl
  have first : (toLog topic height staker value periods).data.take 32 = Word.ofUInt64 value :=
    List.take_left' (Word.length_ofUInt64 value)
  have second : (toLog topic height staker value periods).data.drop 32 = Word.ofUInt64 periods :=
    List.drop_left' (Word.length_ofUInt64 value)
  have size : (toLog topic height staker value periods).data.length = 64 := by
    rw [toLog, List.length_append, Word.length_ofUInt64, Word.length_ofUInt64]
  have padded : staker.toWord.bytes.take 12 = List.replicate 12 0 :=
    List.take_left' List.length_replicate
  rw [ofLog_of_named named, if_neg (by omega), if_pos padded, first, second,
    List.take_of_length_le (Nat.le_of_eq (Word.length_ofUInt64 periods)),
    Amount.ofWordBytes_ofUInt64, Amount.ofWordBytes_ofUInt64]
  show Except.ok _ = _
  rw [Address.ofLowerBytes_toWord]

end DepositEvent

/-- A log holds a deposit just if it has a second topic that starts with twelve zero bytes, and
    two words of data whose upper halves are zero (`RawLog.IsDeposit`). The staker is what is
    left of that topic, and the numbers are in the lower halves (`DepositEvent.IsIn`). Any other
    log is a fault. Nothing else that the log holds plays a part, and what the staking contract
    writes (`toLog`) is read back. -/
theorem deposit_logs_are_read_exactly :
    (∀ (log : RawLog) (event : DepositEvent), DepositEvent.ofLog log = .ok event ↔
      ∃ word, log.IsDeposit word ∧ event.IsIn log word) ∧
    (∀ log : RawLog, (∃ fault, DepositEvent.ofLog log = .error fault) ↔
      ¬ ∃ word, log.IsDeposit word) ∧
    (∀ log log' : RawLog, log.topics[1]? = log'.topics[1]? →
      log.data.take 64 = log'.data.take 64 → DepositEvent.ofLog log = DepositEvent.ofLog log') ∧
    ∀ (topic : Word) (height : UInt64) (staker : Address) (value periods : UInt64),
      DepositEvent.ofLog (DepositEvent.toLog topic height staker value periods) =
        .ok ⟨staker, .ofUInt64 value, .ofUInt64 periods⟩ :=
  ⟨fun _ _ => DepositEvent.ofLog_ok_iff, fun _ => DepositEvent.ofLog_error_iff,
    fun _ _ => DepositEvent.ofLog_congr, DepositEvent.ofLog_toLog⟩

/-- A deposit of 261 in two periods, with a topic and a byte that do not belong to it. -/
def wideLog : RawLog where
  block := 9
  topics := [Address.zero.toWord, Address.zero.toWord, ⟨List.replicate 32 0xff, rfl⟩]
  data := List.replicate 30 0 ++ [1, 5] ++ List.replicate 31 0 ++ [2, 0xff]

theorem wide_log_is_read :
    DepositEvent.ofLog wideLog = .ok ⟨.zero, 261, 2⟩ ∧
      DepositEvent.ofLog wideLog =
        DepositEvent.ofLog ⟨0, wideLog.topics.take 2, wideLog.data.take 64⟩ :=
  ⟨(deposit_logs_are_read_exactly.1 wideLog _).mpr
      ⟨Address.zero.toWord, ⟨rfl, rfl, by decide, rfl, rfl⟩, ⟨rfl, rfl, rfl⟩⟩,
    deposit_logs_are_read_exactly.2.2.1 wideLog _ rfl rfl⟩

end StakeRelay
