/-
  StakeRelay.Proofs.Chain.Registry — the registry behind a node, its numbers as they are.

  A walk through a registry that stands behind a node makes one remote call for each of its
  questions. A call may give nothing at all, too few bytes, or a word with whatever stands
  behind it. The number in a word has 256 bits. The size of the registry has to fit 64 of
  them, or the walk fails; a balance has to fit 128, or the entry is left out. Where a number
  fits it is the one in the word, so none is ever cut.

  The same failure to read a number ends the walk at the size and costs no more than the entry
  behind it. Only a size that was not told at all may pass by itself.

  Main statements:
    * `Node.told?_cases` — what a contract call may give;
    * `Reading.remotes_iff` — the calls for one entry are one visit of it;
    * `Walk.path_remotes_iff` — the calls of a whole walk, and what it comes to;
    * `registry_numbers_are_never_cut` — all of it, for every node.
-/

import StakeRelay.Chain.Node
import StakeRelay.Proofs.Account.Reading
import StakeRelay.Proofs.Deposit.Reading
import StakeRelay.Proofs.Staker.Enumeration

namespace StakeRelay

open Dialogue

/-! ## §1. Results of contract calls -/

namespace Node

/-- The bytes that a contract call gave. -/
def output? (result : RpcResult) : Option Bytes := result.bind bytes?

/-- The word that they start with. -/
def told? (result : RpcResult) : Option Word :=
  (output? result).bind fun bs => Word.ofBytes? (bs.take 32)

variable {result : RpcResult} {w : Word} {bs : Bytes} {function : String}

/-- The first 32 bytes are the word `w` just if `bs` starts with `w.bytes`. -/
theorem ofBytes?_take_iff : Word.ofBytes? (bs.take 32) = some w ↔ ∃ rest, bs = w.bytes ++ rest := by
  unfold Word.ofBytes?
  split
  · next size =>
    rw [Option.some.injEq]
    constructor
    · rintro rfl
      exact ⟨bs.drop 32, (List.take_append_drop 32 bs).symm⟩
    · rintro ⟨rest, rfl⟩
      cases w with
      | mk bytes length_eq => simp only [List.take_left' length_eq]
  · next short =>
    refine iff_of_false (Option.some_ne_none w).symm ?_
    rintro ⟨rest, rfl⟩
    exact short ((congrArg List.length (List.take_left' w.length_eq)).trans w.length_eq)

/-- `told? result` is the word `w` just if the output starts with `w.bytes`, whatever stands
    behind it. -/
theorem told?_iff : told? result = some w ↔ ∃ rest, output? result = some (w.bytes ++ rest) := by
  unfold told?
  rw [Option.bind_eq_some_iff]
  constructor
  · rintro ⟨bs, given, word⟩
    obtain ⟨rest, rfl⟩ := ofBytes?_take_iff.mp word
    exact ⟨rest, given⟩
  · rintro ⟨rest, given⟩
    exact ⟨_, given, ofBytes?_take_iff.mpr ⟨rest, rfl⟩⟩

/-- A contract call gives nothing (`output?` is `none`), fewer than 32 bytes, or a word
    (`told?`). -/
theorem told?_cases (result : RpcResult) : output? result = none ∨
    (∃ bs, output? result = some bs ∧ bs.length < 32) ∨ ∃ w, told? result = some w := by
  cases given : output? result with
  | none => exact .inl rfl
  | some bs =>
    by_cases short : bs.length < 32
    · exact .inr (.inl ⟨bs, rfl, short⟩)
    · have size : (bs.take 32).length = 32 := by
        rw [List.length_take]
        omega
      refine .inr (.inr ⟨⟨bs.take 32, size⟩, told?_iff.mpr ⟨bs.drop 32, ?_⟩⟩)
      rw [given, List.take_append_drop]

/-- Without an output `firstWord` fails with `.network (.call function)`. -/
theorem firstWord_of_nothing (nothing : output? result = none) :
    firstWord function result = .error (.network (.call function)) := by
  unfold output? at nothing
  unfold firstWord
  rw [nothing]

/-- With fewer than 32 bytes it fails with `.decode (.callResult function)`. -/
theorem firstWord_of_short (given : output? result = some bs) (short : bs.length < 32) :
    firstWord function result = .error (.decode (.callResult function)) := by
  have none : Word.ofBytes? (bs.take 32) = none := by
    refine dif_neg ?_
    rw [List.length_take]
    omega
  unfold output? at given
  unfold firstWord
  simp only [given, none]

/-- Otherwise `firstWord` is the word that was told. -/
theorem firstWord_of_told (told : told? result = some w) : firstWord function result = .ok w := by
  obtain ⟨bs, given, word⟩ := Option.bind_eq_some_iff.mp told
  unfold output? at given
  unfold firstWord
  simp only [given, word]

/-- If no word is told (`told? result = none`), `firstWord` fails in one way or the other. -/
theorem firstWord_of_untold (function : String) (untold : told? result = none) :
    ∃ failure, firstWord function result = .error failure := by
  rcases told?_cases result with nothing | ⟨bs, given, short⟩ | ⟨w, told⟩
  · exact ⟨_, firstWord_of_nothing nothing⟩
  · exact ⟨_, firstWord_of_short given short⟩
  · rw [untold] at told
    cases told

/-- A word that is written in hexadecimal by `Hex.encode0x` is told, whatever is written behind
    it. -/
theorem told?_encode0x (w : Word) (rest : Bytes) :
    told? (some (.string (Hex.encode0x (w.bytes ++ rest)))) = some w := by
  have digits : (Hex.encode0x (w.bytes ++ rest)).toList =
      '0' :: 'x' :: Hex.encodeChars (w.bytes ++ rest) := by
    unfold Hex.encode0x Hex.encode
    rw [String.toList_append, String.toList_ofList, String.toList_ofList]
    rfl
  have read : Hex.decode (Utf8.encodeChars (Hex.encodeChars (w.bytes ++ rest))) =
      .ok (w.bytes ++ rest) := Hex.decode_ok_iff.mpr (Hex.map_lower_encodeChars _)
  refine told?_iff.mpr ⟨rest, ?_⟩
  unfold output?
  rw [Option.bind_some]
  unfold bytes?
  simp only [digits]
  exact congrArg Except.toOption read

/-- The amount that is told: the number in the word, if it fits 128 bits. -/
def amount? (result : RpcResult) : Option Amount :=
  (told? result).bind fun w =>
    if fits : BigEndian.value w.bytes < 2 ^ 128 then some ⟨BigEndian.value w.bytes, fits⟩ else none

theorem answerOf_stakerAt (index : UInt64) (result : RpcResult) :
    answerOf (.stakerAt index) result =
      (firstWord stakerFunction result).bind fun w => .ok (.ofLowerBytes w) := rfl

theorem answerOf_stakerInfo (staker : Address) (result : RpcResult) :
    answerOf (.stakerInfo staker) result =
      (firstWord infoFunction result).bind fun w =>
        (Amount.ofNat (BigEndian.value w.bytes)).mapError .decode := rfl

theorem answerOf_registrySize (result : RpcResult) :
    answerOf .registrySize result =
      (firstWord sizeFunction result).bind fun w =>
        (narrow64 (BigEndian.value w.bytes)).mapError .decode := rfl

/-- The entry at an index is the address in the lower bytes of the word that was told,
    `.ofLowerBytes w`. -/
theorem answerOf_stakerAt_told (index : UInt64) (told : told? result = some w) :
    answerOf (.stakerAt index) result = .ok (.ofLowerBytes w) := by
  rw [answerOf_stakerAt, firstWord_of_told told]
  rfl

/-- And a failure if no word was. -/
theorem answerOf_stakerAt_untold (index : UInt64) (untold : told? result = none) :
    ∃ failure, answerOf (.stakerAt index) result = .error failure := by
  obtain ⟨failure, refused⟩ := firstWord_of_untold stakerFunction untold
  refine ⟨failure, ?_⟩
  rw [answerOf_stakerAt, refused]
  rfl

/-- A result gives the amount `a` just if it tells a word of that value, so the value fits 128
    bits. -/
theorem amount?_iff {a : Amount} :
    amount? result = some a ↔ ∃ w, told? result = some w ∧ BigEndian.value w.bytes = a.val := by
  unfold amount?
  rw [Option.bind_eq_some_iff]
  refine exists_congr fun w => and_congr_right fun _ => ?_
  split
  · rw [Option.some.injEq, Fin.ext_iff]
  · next wide => exact iff_of_false (Option.some_ne_none a).symm fun same => wide (same ▸ a.isLt)

/-- A balance is answered just if `amount?` gives it: a word is told, and its value fits. -/
theorem toOption_answerOf_stakerInfo (staker : Address) (result : RpcResult) :
    (answerOf (.stakerInfo staker) result).toOption = amount? result := by
  rw [answerOf_stakerInfo]
  unfold amount?
  cases told : told? result with
  | none =>
    obtain ⟨failure, refused⟩ := firstWord_of_untold infoFunction told
    rw [refused]
    rfl
  | some w =>
    rw [firstWord_of_told told, Option.bind_some]
    show ((Amount.ofNat (BigEndian.value w.bytes)).mapError _).toOption = _
    split
    · next fits =>
      have exact := Amount.ofNat_ok_iff (a := ⟨BigEndian.value w.bytes, fits⟩).mpr rfl
      rw [exact]
      rfl
    · next wide =>
      have refused : Amount.ofNat (BigEndian.value w.bytes) =
          .error (.beyond128 (BigEndian.value w.bytes)) := dif_neg wide
      rw [refused]
      rfl

section Size

/-- No output for the size is a failure of the network, `.network`, which passes. -/
theorem size_of_nothing (nothing : output? result = none) :
    answerOf .registrySize result = .error (.network (.call sizeFunction)) := by
  rw [answerOf_registrySize, firstWord_of_nothing nothing]
  rfl

/-- Fewer than 32 bytes for the size are a decoding failure, `.decode`, which does not. -/
theorem size_of_short (given : output? result = some bs) (short : bs.length < 32) :
    answerOf .registrySize result = .error (.decode (.callResult sizeFunction)) := by
  rw [answerOf_registrySize, firstWord_of_short given short]
  rfl

/-- So is a size of `2 ^ 64` or more, which is named in full (`.beyond64`). -/
theorem size_of_wide (told : told? result = some w) (wide : 2 ^ 64 ≤ BigEndian.value w.bytes) :
    answerOf .registrySize result = .error (.decode (.beyond64 (BigEndian.value w.bytes))) := by
  have refused : narrow64 (BigEndian.value w.bytes) = .error (.beyond64 (BigEndian.value w.bytes)) :=
    if_neg (Nat.not_lt.mpr wide)
  rw [answerOf_registrySize, firstWord_of_told told, Except.bind, refused]
  rfl

/-- Every size below `2 ^ 64` is answered as it is. -/
theorem size_of_fits (told : told? result = some w) (fits : BigEndian.value w.bytes < 2 ^ 64) :
    answerOf .registrySize result = .ok (.ofNat (BigEndian.value w.bytes)) := by
  have narrowed : narrow64 (BigEndian.value w.bytes) = .ok (.ofNat (BigEndian.value w.bytes)) :=
    if_pos fits
  rw [answerOf_registrySize, firstWord_of_told told, Except.bind, narrowed]
  rfl

end Size

end Node

/-- A question to the source chain, with the result of the remote call that was made for it. -/
structure Remote where
  query : SourceQuery
  result : RpcResult

namespace Remote

/-- The question with the answer that the result gives. -/
def exchange (r : Remote) : Exchange := ⟨.source r.query, Node.answerOf r.query r.result⟩

/-- A call with its result is the exchange with the source that answers as `Node.answerOf` reads
    that result. -/
theorem exchange_eq_iff {r : Remote} {q : SourceQuery} {reply : Except Failure q.Reply} :
    r.exchange = ⟨.source q, reply⟩ ↔ ∃ result, r = ⟨q, result⟩ ∧ Node.answerOf q result = reply := by
  constructor
  · intro same
    obtain ⟨query, result⟩ := r
    injection same with asked told
    injection asked with asked
    subst asked
    exact ⟨result, rfl, eq_of_heq told⟩
  · rintro ⟨result, rfl, rfl⟩
    rfl

/-- The same as `exchange_eq_iff` for the first of several calls. -/
theorem map_exchange_cons_iff {asked : List Remote} {q : SourceQuery} {t : List Exchange}
    {reply : Except Failure q.Reply} :
    asked.map exchange = ⟨.source q, reply⟩ :: t ↔ ∃ result rest, asked = ⟨q, result⟩ :: rest ∧
      Node.answerOf q result = reply ∧ rest.map exchange = t := by
  rw [List.map_eq_cons_iff]
  constructor
  · rintro ⟨first, rest, rfl, told, later⟩
    obtain ⟨result, rfl, given⟩ := exchange_eq_iff.mp told
    exact ⟨result, rest, rfl, given, later⟩
  · rintro ⟨result, rest, rfl, given, later⟩
    exact ⟨_, rest, rfl, exchange_eq_iff.mpr ⟨result, rfl, given⟩, later⟩

end Remote

/-! ## §2. Entries -/

/-- What a node gives for one entry of its registry. -/
structure Reading where
  index : UInt64
  /-- The result of the call for the staker. -/
  staker : RpcResult
  /-- The result of the call for what the staker has locked, if it is made. -/
  info : RpcResult

namespace Reading

/-- The questions about the entry. Only of a staker that was told the second is asked. -/
def remotes (e : Reading) : List Remote :=
  ⟨.stakerAt e.index, e.staker⟩ ::
    match Node.told? e.staker with
    | none => []
    | some w => [⟨.stakerInfo (.ofLowerBytes w), e.info⟩]

/-- The record of the entry. There is one if both are told, and its balance is the amount as
    it was told. -/
def record? (e : Reading) : Option StakerRecord := do
  let staker ← Node.told? e.staker
  let balance ← Node.amount? e.info
  return {
    identity := .ofAddress (.ofLowerBytes staker)
    workBase := .ofLowerBytes staker
    isActive := true
    lockedBalance := balance
    workCount := 0 }

/-- An entry has the record of a staker and a balance (`record?`) just if both are told, and the
    balance is the value of its word. -/
theorem record?_iff {e : Reading} {record : StakerRecord} :
    e.record? = some record ↔ ∃ staker balance, Node.told? e.staker = some staker ∧
      Node.told? e.info = some balance ∧
      BigEndian.value balance.bytes = record.lockedBalance.val ∧
      record = .ofAddress (.ofLowerBytes staker) record.lockedBalance := by
  unfold record?
  simp only [Option.bind_eq_bind, Option.bind_eq_some_iff, Node.amount?_iff]
  constructor
  · rintro ⟨staker, named, balance, ⟨word, told, value⟩, found⟩
    cases found
    exact ⟨staker, word, named, told, value, rfl⟩
  · rintro ⟨staker, word, named, told, value, whole⟩
    exact ⟨staker, named, record.lockedBalance, ⟨word, told, value⟩, congrArg some whole.symm⟩

/-- An entry whose staker is not told has no record. -/
theorem record?_of_unnamed {e : Reading} (untold : Node.told? e.staker = none) :
    e.record? = none := by
  unfold record?
  rw [untold]
  rfl

/-- Neither has one whose number is `2 ^ 128` or more. -/
theorem record?_of_wide {e : Reading} {balance : Word} (told : Node.told? e.info = some balance)
    (wide : 2 ^ 128 ≤ BigEndian.value balance.bytes) : e.record? = none := by
  rw [Option.eq_none_iff_forall_ne_some]
  intro record found
  obtain ⟨staker, balance', -, told', value, -⟩ := record?_iff.mp found
  obtain rfl := Option.some.inj (told.symm.trans told')
  exact Nat.not_lt.mpr wide (value ▸ record.lockedBalance.isLt)

/-- What the walk makes of the two results. -/
def visit (e : Reading) : Visit :=
  match Node.answerOf (.stakerAt e.index) e.staker with
  | .error failure => .unnamed e.index failure
  | .ok staker =>
    match Node.answerOf (.stakerInfo staker) e.info with
    | .error failure => .unvalued e.index staker failure
    | .ok balance => .told e.index staker balance

theorem index_visit (e : Reading) : e.visit.index = e.index := by
  unfold visit
  split
  · rfl
  split
  · rfl
  · rfl

/-- The second question of an entry, for the information, follows an answer to the first
    (`stakerAt`). -/
theorem remotes_eq (e : Reading) : e.remotes = ⟨.stakerAt e.index, e.staker⟩ ::
    match Node.answerOf (.stakerAt e.index) e.staker with
    | .error _ => []
    | .ok staker => [⟨.stakerInfo staker, e.info⟩] := by
  unfold remotes
  cases named : Node.told? e.staker with
  | none =>
    obtain ⟨failure, refused⟩ := Node.answerOf_stakerAt_untold e.index named
    simp only [refused]
  | some w => simp only [Node.answerOf_stakerAt_told e.index named]

/-- The `visit` of an entry exchanges what its `remotes`, the calls and their results, are read
    as. -/
theorem exchanges_visit (e : Reading) : e.visit.exchanges = e.remotes.map Remote.exchange := by
  rw [remotes_eq, List.map_cons, Remote.exchange]
  unfold visit
  cases Node.answerOf (.stakerAt e.index) e.staker with
  | error failure => rfl
  | ok staker =>
    simp only [List.map_cons, List.map_nil, Remote.exchange]
    cases Node.answerOf (.stakerInfo staker) e.info with
    | error failure => rfl
    | ok balance => rfl

theorem record?_visit (e : Reading) : e.visit.record? = e.record? := by
  unfold record?
  cases named : Node.told? e.staker with
  | none =>
    obtain ⟨failure, refused⟩ := Node.answerOf_stakerAt_untold e.index named
    simp only [visit, refused]
    rfl
  | some w =>
    have told := Node.answerOf_stakerAt_told e.index named
    rw [← Node.toOption_answerOf_stakerInfo (.ofLowerBytes w)]
    cases valued : Node.answerOf (.stakerInfo (.ofLowerBytes w)) e.info with
    | error failure =>
      simp only [visit, told, valued]
      rfl
    | ok balance =>
      simp only [visit, told, valued]
      rfl

/-- Calls are read as the exchanges of a visit just if they are the `remotes` of an entry with
    that visit. -/
theorem remotes_iff {asked : List Remote} {v : Visit} :
    asked.map Remote.exchange = v.exchanges ↔ ∃ e : Reading, e.visit = v ∧ asked = e.remotes := by
  constructor
  · intro same
    -- an entry that is lost early was asked for once only, so its second result is missing
    cases v with
    | unnamed index failure =>
      obtain ⟨staker, rest, rfl, refused, nothing⟩ := Remote.map_exchange_cons_iff.mp same
      obtain rfl := List.map_eq_nil_iff.mp nothing
      refine ⟨⟨index, staker, none⟩, ?_, ?_⟩
      · simp only [visit, refused]
      · simp only [remotes_eq, refused]
    | unvalued index staker failure =>
      obtain ⟨named, rest, rfl, told, second⟩ := Remote.map_exchange_cons_iff.mp same
      obtain ⟨info, rest, rfl, refused, nothing⟩ := Remote.map_exchange_cons_iff.mp second
      obtain rfl := List.map_eq_nil_iff.mp nothing
      refine ⟨⟨index, named, info⟩, ?_, ?_⟩
      · simp only [visit, told, refused]
      · simp only [remotes_eq, told]
    | told index staker balance =>
      obtain ⟨named, rest, rfl, told, second⟩ := Remote.map_exchange_cons_iff.mp same
      obtain ⟨info, rest, rfl, valued, nothing⟩ := Remote.map_exchange_cons_iff.mp second
      obtain rfl := List.map_eq_nil_iff.mp nothing
      refine ⟨⟨index, named, info⟩, ?_, ?_⟩
      · simp only [visit, told, valued]
      · simp only [remotes_eq, told]
  · rintro ⟨e, rfl, rfl⟩
    exact e.exchanges_visit.symm

/-- Likewise for the visits of a walk and the `remotes` of its entries, one after another. -/
theorem flatMap_remotes_iff {asked : List Remote} {visits : List Visit} :
    asked.map Remote.exchange = visits.flatMap Visit.exchanges ↔
      ∃ readings : List Reading, readings.map visit = visits ∧ asked = readings.flatMap remotes := by
  constructor
  · intro same
    induction visits generalizing asked with
    | nil => exact ⟨[], rfl, List.map_eq_nil_iff.mp same⟩
    | cons v visits ih =>
      rw [List.flatMap_cons] at same
      obtain ⟨here, later, rfl, first, rest⟩ := List.map_eq_append_iff.mp same
      obtain ⟨e, rfl, rfl⟩ := remotes_iff.mp first
      obtain ⟨readings, rfl, rfl⟩ := ih rest
      exact ⟨e :: readings, rfl, rfl⟩
  · rintro ⟨readings, rfl, rfl⟩
    rw [List.flatMap_map, List.map_flatMap]
    exact congrArg readings.flatMap (funext fun e => e.exchanges_visit.symm)

theorem indices_visit (readings : List Reading) :
    (readings.map visit).map (·.index.toNat) = readings.map (·.index.toNat) := by
  rw [List.map_map]
  exact List.map_congr_left fun e _ => congrArg UInt64.toNat e.index_visit

theorem records_visit (readings : List Reading) :
    (readings.map visit).filterMap Visit.record? = readings.filterMap record? := by
  rw [List.filterMap_map]
  exact congrArg readings.filterMap (funext record?_visit)

end Reading

/-! ## §3. Walks -/

namespace Walk

/-- What a walk comes to, by the results of the calls that were made for it. -/
inductive Built (w : Walk) : List Remote → Except Failure (List StakerRecord) → Prop
  /-- The call for the size gives nothing. -/
  | unreached {size : RpcResult} (nothing : Node.output? size = none) :
      Built w [⟨.registrySize, size⟩] (.error (.network (.call Node.sizeFunction)))
  /-- It gives too few bytes for a word. -/
  | short {size : RpcResult} {bs : Bytes} (given : Node.output? size = some bs)
      (short : bs.length < 32) :
      Built w [⟨.registrySize, size⟩] (.error (.decode (.callResult Node.sizeFunction)))
  /-- The size does not fit 64 bits. -/
  | wide {size : RpcResult} {word : Word} (told : Node.told? size = some word)
      (wide : 2 ^ 64 ≤ BigEndian.value word.bytes) :
      Built w [⟨.registrySize, size⟩] (.error (.decode (.beyond64 (BigEndian.value word.bytes))))
  /-- The size fits, and the multiples of the stride below it are read. -/
  | whole {size : RpcResult} {word : Word} {readings : List Reading}
      (told : Node.told? size = some word) (fits : BigEndian.value word.bytes < 2 ^ 64)
      (placed : readings.map (·.index.toNat) =
        (List.range (BigEndian.value word.bytes)).filter (w.stride.toNat ∣ ·)) :
      Built w (⟨.registrySize, size⟩ :: readings.flatMap Reading.remotes)
        (.ok (readings.filterMap Reading.record?))

variable {w : Walk} {asked : List Remote} {outcome : Except Failure (List StakerRecord)}

/-- Where the size is refused, the walk is `Built` of that one call and fails with its failure. -/
theorem built_of_refused {size : RpcResult} {failure : Failure}
    (refused : Node.answerOf .registrySize size = .error failure) :
    w.Built [⟨.registrySize, size⟩] (.error failure) := by
  rcases Node.told?_cases size with nothing | ⟨bs, given, short⟩ | ⟨word, told⟩
  · cases refused.symm.trans (Node.size_of_nothing nothing)
    exact .unreached nothing
  · cases refused.symm.trans (Node.size_of_short given short)
    exact .short given short
  · rcases Nat.lt_or_ge (BigEndian.value word.bytes) (2 ^ 64) with fits | wide
    · cases refused.symm.trans (Node.size_of_fits told fits)
    · cases refused.symm.trans (Node.size_of_wide told wide)
      exact .wide told wide

/-- A size that is answered is the value of the word that was told. -/
theorem told_of_answered {result : RpcResult} {size : UInt64}
    (answered : Node.answerOf .registrySize result = .ok size) :
    ∃ word, Node.told? result = some word ∧ BigEndian.value word.bytes = size.toNat := by
  rcases Node.told?_cases result with nothing | ⟨bs, given, short⟩ | ⟨word, told⟩
  · cases answered.symm.trans (Node.size_of_nothing nothing)
  · cases answered.symm.trans (Node.size_of_short given short)
  · rcases Nat.lt_or_ge (BigEndian.value word.bytes) (2 ^ 64) with fits | wide
    · cases answered.symm.trans (Node.size_of_fits told fits)
      exact ⟨word, told, (UInt64.toNat_ofNat_of_lt' fits).symm⟩
    · cases answered.symm.trans (Node.size_of_wide told wide)

/-- A walk over calls comes to `outcome` just if it is `Built` so. -/
theorem path_remotes_iff :
    Path w.build.run (asked.map Remote.exchange) (.done outcome) ↔ w.Built asked outcome := by
  -- which exchanges a walk has is known; what is added is which results stand for them
  rw [path_build_iff]
  constructor
  · rintro (⟨failure, same, rfl⟩ | ⟨size, visits, same, placed, rfl⟩)
    · obtain ⟨result, rest, rfl, refused, nothing⟩ := Remote.map_exchange_cons_iff.mp same
      obtain rfl := List.map_eq_nil_iff.mp nothing
      exact built_of_refused refused
    · obtain ⟨result, rest, rfl, answered, later⟩ := Remote.map_exchange_cons_iff.mp same
      obtain ⟨readings, rfl, rfl⟩ := Reading.flatMap_remotes_iff.mp later
      obtain ⟨word, told, value⟩ := told_of_answered answered
      rw [Reading.indices_visit, ← value] at placed
      rw [Reading.records_visit]
      exact .whole told (value ▸ size.toNat_lt) placed
  · intro built
    cases built with
    | unreached nothing =>
      refine .inl ⟨_, ?_, rfl⟩
      rw [List.map_singleton, Remote.exchange, Node.size_of_nothing nothing]
    | short given short =>
      refine .inl ⟨_, ?_, rfl⟩
      rw [List.map_singleton, Remote.exchange, Node.size_of_short given short]
    | wide told wide =>
      refine .inl ⟨_, ?_, rfl⟩
      rw [List.map_singleton, Remote.exchange, Node.size_of_wide told wide]
    | @whole size word readings told fits placed =>
      have size_eq : (UInt64.ofNat (BigEndian.value word.bytes)).toNat = BigEndian.value word.bytes :=
        UInt64.toNat_ofNat_of_lt' fits
      refine .inr ⟨.ofNat (BigEndian.value word.bytes), readings.map Reading.visit, ?_, ?_, ?_⟩
      · rw [List.map_cons, Remote.exchange, Node.size_of_fits told fits,
          Reading.flatMap_remotes_iff.mpr ⟨readings, rfl, rfl⟩]
      · rw [Reading.indices_visit, size_eq, placed]
      · rw [Reading.records_visit]

/-- A visit asks nobody but the source. -/
theorem asks_source_of_mem {v : Visit} {x : Exchange} (member : x ∈ v.exchanges) :
    ∃ q, x.request = .source q := by
  cases v with
  | unnamed index failure =>
    rw [List.mem_singleton.mp member]
    exact ⟨_, rfl⟩
  | unvalued index staker failure =>
    rcases List.mem_pair.mp member with rfl | rfl
    · exact ⟨_, rfl⟩
    · exact ⟨_, rfl⟩
  | told index staker balance =>
    rcases List.mem_pair.mp member with rfl | rfl
    · exact ⟨_, rfl⟩
    · exact ⟨_, rfl⟩

/-- Neither does a walk. -/
theorem path_asks_source {t : List Exchange} (path : Path w.build.run t (.done outcome)) :
    ∀ x ∈ t, ∃ q, x.request = .source q := by
  intro x member
  rcases path_build_iff.mp path with ⟨failure, rfl, -⟩ | ⟨size, visits, rfl, -, -⟩
  · rw [List.mem_singleton.mp member]
    exact ⟨_, rfl⟩
  · rcases List.mem_cons.mp member with rfl | member
    · exact ⟨_, rfl⟩
    · obtain ⟨v, -, asked⟩ := List.mem_flatMap.mp member
      exact asks_source_of_mem asked

end Walk

/-! ## §4. Nodes -/

namespace ScriptedNode

/-- The node gives these results to these questions, one after another, and is left as the
    other one. -/
def Returns : ScriptedNode → List Remote → ScriptedNode → Prop
  | node, [], left => left = node
  | node, r :: asked, left =>
    r.result = node.results.head?.getD none ∧ Returns (node.answer r.query).2 asked left

/-- A dialogue that asks a scripted node nobody else comes to calls that the node `Returns`. -/
theorem exists_returns {α : Type} (d : Dialogue α) (node : ScriptedNode)
    (source : ∀ x ∈ d.exchanges answering node, ∃ q, x.request = .source q) :
    ∃ asked, node.Returns asked (d.run answering node).2 ∧
      d.exchanges answering node = asked.map Remote.exchange := by
  induction d generalizing node with
  | done a => exact ⟨[], rfl, rfl⟩
  | ask r next ih =>
    obtain ⟨q, rfl⟩ := source _ List.mem_cons_self
    obtain ⟨asked, returned, exchanged⟩ := ih _ _ fun x member => source x (List.mem_cons_of_mem _ member)
    refine ⟨⟨q, node.results.head?.getD none⟩ :: asked, ⟨rfl, returned⟩, ?_⟩
    rw [List.map_cons, ← exchanged]
    rfl

end ScriptedNode

/-- The numbers of a registry behind a node are never cut, and what cannot be read fails where
    it should. For every stride and every node,
      * a walk comes to what the results of its calls say (`Walk.Built`): it fails with a network
        failure if the call for the size gives nothing, and with a decoding failure if that gives
        less than a word or a number of more than 64 bits; otherwise it reads the entries at the
        multiples of the stride below that number, and its result is the records of those that
        have one, in that order;
      * only the network failure is transient (`Failure.isTransient`);
      * an entry has a record (`Reading.record?`) just if a staker and a number of at most 128
        bits are told, and the balance of the record is that number;
      * whatever word a call returns in hexadecimal is told (`Node.told?`), with whatever bytes
        behind it;
      * with a node whose results are known beforehand (`ScriptedNode`) the walk runs to its end
        in this way. -/
theorem registry_numbers_are_never_cut (w : Walk) :
    (∀ asked outcome,
      Path w.build.run (asked.map Remote.exchange) (.done outcome) ↔ w.Built asked outcome) ∧
    (∀ asked failure, w.Built asked (.error failure) →
      (failure.isTransient = true ∧ ∃ size, asked = [⟨.registrySize, size⟩] ∧
        Node.output? size = none) ∨
      failure.isTransient = false ∧ ∃ fault, failure = .decode fault) ∧
    (∀ (e : Reading) record, e.record? = some record ↔ ∃ staker balance,
      Node.told? e.staker = some staker ∧ Node.told? e.info = some balance ∧
        BigEndian.value balance.bytes = record.lockedBalance.val ∧
        record = .ofAddress (.ofLowerBytes staker) record.lockedBalance) ∧
    (∀ (word : Word) rest,
      Node.told? (some (.string (Hex.encode0x (word.bytes ++ rest)))) = some word) ∧
    ∀ node : ScriptedNode, ∃ asked,
      node.Returns asked (w.build.run.run ScriptedNode.answering node).2 ∧
        w.Built asked (w.build.run.run ScriptedNode.answering node).1 := by
  refine ⟨fun asked outcome => Walk.path_remotes_iff, fun asked failure built => ?_,
    fun e record => Reading.record?_iff, Node.told?_encode0x, fun node => ?_⟩
  · cases built with
    | unreached nothing => exact .inl ⟨rfl, _, rfl, nothing⟩
    | short given short => exact .inr ⟨rfl, _, rfl⟩
    | wide told wide => exact .inr ⟨rfl, _, rfl⟩
  · have path := path_run ScriptedNode.answering w.build.run node
    obtain ⟨asked, returned, exchanged⟩ :=
      ScriptedNode.exists_returns w.build.run node (Walk.path_asks_source path)
    rw [exchanged] at path
    exact ⟨asked, returned, Walk.path_remotes_iff.mp path⟩

section Widest

/-- A call returns this word. -/
def Node.returning (w : Word) : RpcResult := some (.string (Hex.encode0x w.bytes))

theorem Node.told?_returning (w : Word) : told? (returning w) = some w := by
  have told := told?_encode0x w []
  rwa [List.append_nil] at told

/-- The number three. -/
def Word.three : Word := ⟨List.replicate 31 0 ++ [3], rfl⟩

/-- The greatest number of 128 bits. -/
def Word.widest : Word := ⟨List.replicate 16 0 ++ List.replicate 16 255, rfl⟩

/-- The number behind it. -/
def Word.tooWide : Word := ⟨List.replicate 15 0 ++ 1 :: List.replicate 16 0, rfl⟩

/-- Three entries: the widest balance, one that is too wide, and a staker that is not told. -/
def widestReadings : List Reading :=
  [⟨0, Node.returning Address.zero.toWord, Node.returning .widest⟩,
   ⟨1, Node.returning Address.zero.toWord, Node.returning .tooWide⟩,
   ⟨2, none, none⟩]

/-- Only the first has a record. -/
theorem records_widestReadings :
    widestReadings.filterMap Reading.record? = [.ofAddress .zero ⟨2 ^ 128 - 1, by decide⟩] := by
  have first : Reading.record? ⟨0, Node.returning Address.zero.toWord, Node.returning .widest⟩ =
      some (.ofAddress .zero ⟨2 ^ 128 - 1, by decide⟩) :=
    Reading.record?_iff.mpr
      ⟨_, _, Node.told?_returning _, Node.told?_returning _, by decide, rfl⟩
  have second : Reading.record? ⟨1, Node.returning Address.zero.toWord, Node.returning .tooWide⟩ =
      none := Reading.record?_of_wide (Node.told?_returning _) (by decide)
  have third : Reading.record? ⟨2, none, none⟩ = none := Reading.record?_of_unnamed rfl
  rw [widestReadings, List.filterMap_cons_some first, List.filterMap_cons_none second,
    List.filterMap_cons_none third, List.filterMap_nil]

end Widest

/-- A walk through three entries keeps the widest balance, `2 ^ 128 - 1`, as it is and leaves
    out the entry behind it, whose number is `2 ^ 128`. A size of `2 ^ 128` fails the walk for
    good. -/
theorem widest_balance_is_kept :
    Path Walk.full.build.run
      ((⟨.registrySize, Node.returning .three⟩ ::
        widestReadings.flatMap Reading.remotes).map Remote.exchange)
      (.done (.ok [.ofAddress .zero ⟨2 ^ 128 - 1, by decide⟩])) ∧
    Walk.full.Built [⟨.registrySize, Node.returning .tooWide⟩]
      (.error (.decode (.beyond64 (2 ^ 128)))) ∧
    (Failure.decode (.beyond64 (2 ^ 128))).isTransient = false := by
  obtain ⟨walked, lasting, -⟩ := registry_numbers_are_never_cut Walk.full
  have whole : Walk.full.Built (⟨.registrySize, Node.returning .three⟩ ::
      widestReadings.flatMap Reading.remotes) (.ok (widestReadings.filterMap Reading.record?)) :=
    .whole (Node.told?_returning .three) (by decide) (by decide)
  have wide : Walk.full.Built [⟨.registrySize, Node.returning .tooWide⟩]
      (.error (.decode (.beyond64 (BigEndian.value Word.tooWide.bytes)))) :=
    .wide (Node.told?_returning .tooWide) (by decide)
  have value : BigEndian.value Word.tooWide.bytes = 2 ^ 128 := by decide
  rw [records_widestReadings] at whole
  rw [value] at wide
  refine ⟨(walked _ _).mpr whole, wide, ?_⟩
  rcases lasting _ _ wide with ⟨transient, -⟩ | ⟨lasts, -⟩
  · cases transient
  · exact lasts

end StakeRelay
