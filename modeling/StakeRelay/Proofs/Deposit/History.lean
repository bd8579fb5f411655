/-
  StakeRelay.Proofs.Deposit.History — the open epoch through all its calls.

  Heights are offered to the open epoch in any order, and in between it is emptied. It takes a
  height in just if the height exceeds all that it took in before. Emptying does not bring back
  a height that was passed, and a height without deposits counts like any other. So the log of
  the calls tells what the epoch holds: its mark is the height taken in last, and its records
  are those of the heights taken in since it was emptied last.

  Main statements:
    * `LedBy.accepts_iff` — which heights are still to be taken in;
    * `LedBy.next` — what a call does to an epoch that follows its log;
    * `open_epoch_follows_its_log` — the same of any calls of a new one.
-/

import Mathlib.Data.List.DropRight
import StakeRelay.Deposit.OpenEpoch

namespace StakeRelay

namespace OpenEpoch

/-! ## §1. Calls and their log -/

/-- What an open epoch can be asked. -/
inductive Call
  /-- To take in the records of a height. -/
  | absorb (height : UInt64) (records : List StakerRecord)
  /-- To drop its records. -/
  | empty
  deriving Repr, DecidableEq

/-- A call and what was answered. -/
inductive Entry
  /-- A height was offered, and taken in or not. -/
  | offered (height : UInt64) (records : List StakerRecord) (taken : Bool)
  | emptied
  deriving Repr, DecidableEq

/-- The call of an entry. -/
def Entry.call : Entry → Call
  | .offered height records _ => .absorb height records
  | .emptied => .empty

/-- The height and the records that were taken in with the entry. -/
def Entry.taken? : Entry → Option (UInt64 × List StakerRecord)
  | .offered height records true => some (height, records)
  | _ => none

/-- Whether a height was offered. -/
def Entry.isOffer : Entry → Bool
  | .offered _ _ _ => true
  | .emptied => false

/-- The entry of a call, and the epoch after it. -/
def answer (e : OpenEpoch) : Call → Entry × OpenEpoch
  | .absorb height records =>
    (.offered height records (e.accepts height), e.absorb height records)
  | .empty => (.emptied, e.emptied)

/-- The log of some calls. -/
def log (e : OpenEpoch) : List Call → List Entry
  | [] => []
  | c :: calls => (e.answer c).1 :: (e.answer c).2.log calls

/-- The epoch after some calls. -/
def after (e : OpenEpoch) : List Call → OpenEpoch
  | [] => e
  | c :: calls => (e.answer c).2.after calls

/-- What was taken in, in the order of the log. -/
def taken (log : List Entry) : List (UInt64 × List StakerRecord) := log.filterMap Entry.taken?

/-- The entries behind the last call that emptied the epoch. -/
def sinceEmptied (log : List Entry) : List Entry := log.rtakeWhile Entry.isOffer

section Logs

variable {log : List Entry} {height : UInt64} {records : List StakerRecord}

theorem call_answer (e : OpenEpoch) (c : Call) : (e.answer c).1.call = c := by
  cases c <;> rfl

/-- The `log` has an entry for each call. -/
theorem map_call_log (e : OpenEpoch) (calls : List Call) :
    (e.log calls).map Entry.call = calls := by
  induction calls generalizing e with
  | nil => rfl
  | cons c calls ih => rw [log, List.map_cons, ih, call_answer]

theorem taken_accepted (log : List Entry) (height : UInt64) (records : List StakerRecord) :
    taken (log ++ [.offered height records true]) = taken log ++ [(height, records)] :=
  List.filterMap_append

theorem taken_refused (log : List Entry) (height : UInt64) (records : List StakerRecord) :
    taken (log ++ [.offered height records false]) = taken log :=
  List.filterMap_append.trans (List.append_nil _)

theorem taken_emptied (log : List Entry) : taken (log ++ [.emptied]) = taken log :=
  List.filterMap_append.trans (List.append_nil _)

theorem sinceEmptied_offered (log : List Entry) (height : UInt64) (records : List StakerRecord)
    (answer : Bool) : sinceEmptied (log ++ [.offered height records answer]) =
      sinceEmptied log ++ [.offered height records answer] :=
  List.rtakeWhile_concat_pos _ _ _ rfl

theorem sinceEmptied_emptied (log : List Entry) : sinceEmptied (log ++ [.emptied]) = [] :=
  List.rtakeWhile_concat_neg _ _ _ (by decide)

end Logs

/-! ## §2. An epoch that follows its log -/

/-- The epoch is what the log of the calls so far tells. -/
structure LedBy (e : OpenEpoch) (log : List Entry) : Prop where
  rising : (taken log).Pairwise fun p q => p.1 < q.1
  mark : e.mark = (taken log).getLast?.map Prod.fst
  records : e.records = (taken (sinceEmptied log)).flatMap Prod.snd

namespace LedBy

variable {e : OpenEpoch} {log : List Entry} {height : UInt64} {records : List StakerRecord}

theorem fresh : LedBy .fresh [] := ⟨.nil, rfl, rfl⟩

/-- A height is still to be taken in just if it exceeds all that were (`taken log`). -/
theorem accepts_iff (led : e.LedBy log) (height : UInt64) :
    e.accepts height = true ↔ ∀ p ∈ taken log, p.1 < height := by
  have mark := led.mark
  rcases List.eq_nil_or_concat (taken log) with none | ⟨front, last, whole⟩
  · rw [none] at mark ⊢
    unfold accepts
    rw [mark]
    exact iff_of_true rfl (List.forall_mem_nil _)
  · rw [List.concat_eq_append] at whole
    have rising := led.rising
    rw [whole, List.pairwise_append] at rising
    rw [whole, List.getLast?_concat] at mark
    unfold accepts
    rw [whole, mark]
    simp only [Option.map_some, decide_eq_true_iff, List.forall_mem_append,
      List.forall_mem_singleton]
    -- the others lie below the last one, which is the mark
    refine ⟨fun above => ⟨fun p member => ?_, above⟩, And.right⟩
    exact UInt64.lt_trans (rising.2.2 p member last List.mem_cons_self) above

theorem absorb (led : e.LedBy log) (accepts : e.accepts height = true)
    (records : List StakerRecord) :
    (e.absorb height records).LedBy (log ++ [.offered height records true]) := by
  rw [absorb_of_accepts records accepts]
  refine ⟨?_, ?_, ?_⟩
  · rw [taken_accepted, List.pairwise_append]
    refine ⟨led.rising, List.pairwise_singleton _ _, fun p member q single => ?_⟩
    rw [List.mem_singleton.mp single]
    exact (led.accepts_iff height).mp accepts p member
  · rw [taken_accepted, List.getLast?_concat]
    rfl
  · rw [sinceEmptied_offered, taken_accepted, List.flatMap_append, ← led.records,
      List.flatMap_singleton]

theorem refuse (led : e.LedBy log) (height : UInt64) (records : List StakerRecord) :
    e.LedBy (log ++ [.offered height records false]) := by
  refine ⟨?_, ?_, ?_⟩
  · rw [taken_refused]
    exact led.rising
  · rw [taken_refused]
    exact led.mark
  · rw [sinceEmptied_offered, taken_refused]
    exact led.records

theorem empty (led : e.LedBy log) : e.emptied.LedBy (log ++ [.emptied]) := by
  refine ⟨?_, ?_, ?_⟩
  · rw [taken_emptied]
    exact led.rising
  · rw [taken_emptied]
    exact led.mark
  · rw [sinceEmptied_emptied]
    rfl

/-- A call leads to the epoch that its entry tells (`LedBy`). -/
theorem next (led : e.LedBy log) (c : Call) : (e.answer c).2.LedBy (log ++ [(e.answer c).1]) := by
  cases c with
  | absorb height records =>
    show (e.absorb height records).LedBy (log ++ [.offered height records (e.accepts height)])
    cases accepts : e.accepts height with
    | true => exact led.absorb accepts records
    | false =>
      rw [absorb_of_not_accepts records accepts]
      exact led.refuse height records
  | empty => exact led.empty

theorem calls (led : e.LedBy log) (calls : List Call) :
    (e.after calls).LedBy (log ++ e.log calls) := by
  induction calls generalizing e log with
  | nil =>
    rw [OpenEpoch.log, List.append_nil]
    exact led
  | cons c calls ih =>
    have later := ih (led.next c)
    rwa [List.append_assoc, List.singleton_append] at later

/-- Each offer of the calls is answered by what was `taken` in before it. -/
theorem told (led : e.LedBy log) {calls : List Call} {front back : List Entry} {answer : Bool}
    (whole : e.log calls = front ++ .offered height records answer :: back) :
    answer = true ↔ ∀ p ∈ taken (log ++ front), p.1 < height := by
  induction calls generalizing e log front with
  | nil => simp [OpenEpoch.log] at whole
  | cons c calls ih =>
    rw [OpenEpoch.log] at whole
    cases front with
    | nil =>
      -- the first call is the offer
      cases c with
      | absorb h rs =>
        injection whole with entry
        injection entry with same _ answer
        subst same answer
        rw [List.append_nil]
        exact led.accepts_iff h
      | empty => injection whole; contradiction
    | cons x front =>
      injection whole with entry rest
      subst entry
      have later := ih (led.next c) rest
      rwa [List.append_assoc, List.singleton_append] at later

end LedBy

end OpenEpoch

/-! ## §3. Any calls -/

open OpenEpoch in
/-- The `log` of any calls of a new epoch has an entry for each of them, and it tells all that
    there is to know. An offered height is taken in just if it exceeds every height that was
    taken in before (`taken`), whether the epoch was emptied since or not; so the heights that
    are taken in rise. The last of them is the `mark`. A height that is not taken in changes
    nothing. The records are those that came with the heights taken in since the epoch was
    emptied last, in their order. -/
theorem open_epoch_follows_its_log (calls : List Call) :
    let log := OpenEpoch.fresh.log calls
    let epoch := OpenEpoch.fresh.after calls
    log.map Entry.call = calls ∧
    (∀ front height records answer back, log = front ++ .offered height records answer :: back →
      (answer = true ↔ ∀ p ∈ taken front, p.1 < height)) ∧
    ((taken log).Pairwise fun p q => p.1 < q.1) ∧
    epoch.mark = (taken log).getLast?.map Prod.fst ∧
    (∀ height records, (epoch.answer (.absorb height records)).1 = .offered height records false →
      (epoch.answer (.absorb height records)).2 = epoch) ∧
    epoch.records = (taken (sinceEmptied log)).flatMap Prod.snd := by
  intro log epoch
  have led : epoch.LedBy log := LedBy.fresh.calls calls
  refine ⟨map_call_log .fresh calls, fun front height records answer back whole => ?_, led.rising,
    led.mark, fun height records refused => ?_, led.records⟩
  · exact LedBy.fresh.told whole
  · injection refused with _ _ refused
    exact absorb_of_not_accepts records refused

open OpenEpoch in
/-- A height that was taken in before the epoch was emptied is not taken in again, and one
    without deposits moves the `mark`. -/
theorem emptied_epoch_keeps_its_mark :
    let record := StakerRecord.ofAddress .zero 5
    let calls : List Call := [.absorb 10 [record], .empty, .absorb 10 [record], .absorb 11 []]
    OpenEpoch.fresh.log calls = [.offered 10 [record] true, .emptied] ++
        .offered 10 [record] false :: [.offered 11 [] true] ∧
      (¬ ∀ p ∈ taken [.offered 10 [record] true, .emptied], p.1 < 10) ∧
      (OpenEpoch.fresh.after calls).mark = some 11 ∧ (OpenEpoch.fresh.after calls).records = [] := by
  intro record calls
  have whole : OpenEpoch.fresh.log calls = [.offered 10 [record] true, .emptied] ++
      .offered 10 [record] false :: [.offered 11 [] true] := rfl
  obtain ⟨-, told, -, mark, -, records⟩ := open_epoch_follows_its_log calls
  refine ⟨whole, fun below => ?_, mark, records⟩
  cases (told _ _ _ _ _ whole).mpr below

end StakeRelay
