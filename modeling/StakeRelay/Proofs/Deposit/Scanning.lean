/-
  StakeRelay.Proofs.Deposit.Scanning — the logs of a block, one after another.

  The logs are read in their order. Either each of them holds a deposit and all the deposits
  come of it, or the first that holds none fails the block, with its position. What comes
  before the broken log and what follows it is lost with it.

  The simulated source keeps the logs in the order in which they were pushed. Those of one
  block are told in that order, wherever the logs of other blocks and topics stand.

  Main statements:
    * `Scanner.decodeFrom_ok_iff`, `Scanner.decodeFrom_error_iff` — what comes of the logs;
    * `SimulatedSource.select_ofBlock` — the logs of a block.
-/

import StakeRelay.Chain.Simulated
import StakeRelay.Deposit.Scanner

namespace StakeRelay

/-! ## §1. Logs in order -/

/-- The log at a position is the first that holds no deposit, and what is wrong with it. -/
structure FirstBroken (logs : List RawLog) (position : Nat) (fault : DecodeFault) : Prop where
  broken : (logs.map DepositEvent.ofLog)[position]? = some (.error fault)
  whole : ∀ i < position, ∃ event, (logs.map DepositEvent.ofLog)[i]? = some (.ok event)

section FirstBroken

variable {log : RawLog} {rest : List RawLog} {position : Nat} {fault fault' : DecodeFault}
  {event : DepositEvent}

theorem firstBroken_of_error (read : DepositEvent.ofLog log = .error fault) :
    FirstBroken (log :: rest) position fault' ↔ position = 0 ∧ fault' = fault := by
  constructor
  · rintro ⟨broken, whole⟩
    rcases Nat.eq_zero_or_pos position with rfl | behind
    · rw [List.map_cons, List.getElem?_cons_zero, read] at broken
      cases broken
      exact ⟨rfl, rfl⟩
    · -- the log ahead of it is broken itself
      obtain ⟨event, first⟩ := whole 0 behind
      rw [List.map_cons, List.getElem?_cons_zero, read] at first
      cases first
  · rintro ⟨rfl, rfl⟩
    exact ⟨congrArg some read, fun i below => absurd below (Nat.not_lt_zero i)⟩

theorem firstBroken_of_ok (read : DepositEvent.ofLog log = .ok event) :
    FirstBroken (log :: rest) position fault ↔
      ∃ behind, position = behind + 1 ∧ FirstBroken rest behind fault := by
  constructor
  · rintro ⟨broken, whole⟩
    cases position with
    | zero =>
      rw [List.map_cons, List.getElem?_cons_zero, read] at broken
      cases broken
    | succ behind =>
      exact ⟨behind, rfl, broken, fun i below => whole (i + 1) (Nat.succ_lt_succ below)⟩
  · rintro ⟨behind, rfl, broken, whole⟩
    refine ⟨broken, fun i below => ?_⟩
    cases i with
    | zero => exact ⟨event, congrArg some read⟩
    | succ i => exact whole i (Nat.lt_of_succ_lt_succ below)

end FirstBroken

namespace Scanner

/-- The logs of a block that a scanner asks for, in their order. -/
def due (scanner : Scanner) (height : UInt64) (logs : List RawLog) : List RawLog :=
  logs.filter fun log => log.block = height && log.topics.head? = some scanner.topic

variable {height : UInt64} {position : Nat} {logs : List RawLog}

/-- Either `decodeFrom` comes to the deposits of all the logs, -/
theorem decodeFrom_ok_iff {events : List DepositEvent} :
    decodeFrom height position logs = .ok events ↔
      logs.map DepositEvent.ofLog = events.map .ok := by
  induction logs generalizing position events with
  | nil => cases events <;> simp [decodeFrom]
  | cons log rest ih =>
    unfold decodeFrom
    rw [List.map_cons]
    cases events with
    | nil => cases DepositEvent.ofLog log <;> cases decodeFrom height (position + 1) rest <;>
        simp [Except.map]
    | cons first events =>
      have later : decodeFrom height (position + 1) rest = .ok events ↔ _ := ih
      rw [List.map_cons, List.cons.injEq, ← later]
      cases DepositEvent.ofLog log <;> cases decodeFrom height (position + 1) rest <;>
        simp [Except.map]

/-- or the first log that holds none (`FirstBroken`) fails it. -/
theorem decodeFrom_error_iff {failure : Failure} :
    decodeFrom height position logs = .error failure ↔
      ∃ behind fault, FirstBroken logs behind fault ∧
        failure = .decode (.inLog height (position + behind) fault) := by
  induction logs generalizing position with
  | nil => exact iff_of_false nofun fun ⟨_, _, first, _⟩ => nomatch first.broken
  | cons log rest ih =>
    unfold decodeFrom
    cases read : DepositEvent.ofLog log with
    | error fault =>
      simp only [firstBroken_of_error read]
      constructor
      · intro told
        cases told
        exact ⟨0, fault, ⟨rfl, rfl⟩, rfl⟩
      · rintro ⟨_, _, ⟨rfl, rfl⟩, rfl⟩
        rfl
    | ok event =>
      have later : (decodeFrom height (position + 1) rest).map (event :: ·) = .error failure ↔
          decodeFrom height (position + 1) rest = .error failure := by
        cases decodeFrom height (position + 1) rest <;> simp [Except.map]
      simp only [firstBroken_of_ok read]
      rw [later, ih]
      constructor
      · rintro ⟨behind, fault, first, rfl⟩
        exact ⟨behind + 1, fault, ⟨behind, rfl, first⟩, by rw [Nat.add_right_comm, Nat.add_assoc]⟩
      · rintro ⟨_, fault, ⟨behind, rfl, first⟩, rfl⟩
        exact ⟨behind, fault, first, by rw [Nat.add_right_comm, Nat.add_assoc]⟩

/-- The same for all the logs of a block, from position `0` on. -/
theorem decode_error_iff {failure : Failure} :
    decodeFrom height 0 logs = .error failure ↔
      ∃ position fault, FirstBroken logs position fault ∧
        failure = .decode (.inLog height position fault) := by
  rw [decodeFrom_error_iff]
  simp only [Nat.zero_add]

/-- A broken block fails to decode. -/
theorem decodeFrom_error {failure : Failure}
    (broken : decodeFrom height position logs = .error failure) :
    ∃ fault, failure = .decode fault := by
  obtain ⟨behind, fault, -, rfl⟩ := decodeFrom_error_iff.mp broken
  exact ⟨_, rfl⟩

end Scanner

/-! ## §2. The simulated source -/

namespace SimulatedSource

/-- The logs are kept in the order in which `push` added them. -/
theorem foldl_push (s : SimulatedSource) (pushed : List RawLog) :
    pushed.foldl push s = { s with logs := s.logs ++ pushed } := by
  induction pushed generalizing s with
  | nil => rw [List.foldl_nil, List.append_nil]
  | cons log rest ih =>
    rw [List.foldl_cons, ih, push, List.append_assoc]
    rfl

/-- Told of one block, the source gives its logs in that order (`Scanner.due`). -/
theorem select_ofBlock (s : SimulatedSource) (scanner : Scanner) (height : UInt64) :
    s.select (.ofBlock scanner.contract scanner.topic height) = scanner.due height s.logs := by
  have alike : (fun log : RawLog => height ≤ log.block && log.block ≤ height &&
      log.topics.head? = some scanner.topic) =
        fun log => log.block = height && log.topics.head? = some scanner.topic := by
    funext log
    have same : (height ≤ log.block && log.block ≤ height) = decide (log.block = height) := by
      rw [← Bool.decide_and, decide_eq_decide, and_comm, UInt64.le_antisymm_iff]
    rw [← same]
  have placed : ∀ log ∈ scanner.due height s.logs, log.block = height := fun log member => by
    have both := (List.mem_filter.mp member).2
    rw [Bool.and_eq_true, decide_eq_true_iff] at both
    exact both.1
  -- of equal heights the sorting leaves the order as it is
  have sorted : (scanner.due height s.logs).Pairwise fun a b =>
      decide (a.block ≤ b.block) = true :=
    List.pairwise_of_forall_mem_list fun a here b there => by
      rw [placed a here, placed b there]
      exact decide_eq_true (UInt64.le_refl height)
  unfold select LogFilter.ofBlock
  simp only [alike]
  exact List.mergeSort_of_pairwise sorted

end SimulatedSource

end StakeRelay
