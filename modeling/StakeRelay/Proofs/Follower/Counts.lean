/-
  StakeRelay.Proofs.Follower.Counts — the exchanges that count.

  In a round at most one exchange counts. It is the one with which the work at the height
  is done, or the one whose failure costs a retry. So the height and the retries that are
  left can be told from the exchanges alone: the height is as many heights behind the first
  as there were completions, and the retries that are missing are the failures since the
  last of them.

  Main statements:
    * `Follower.TurnPath.counts` — what a round counts;
    * `Follower.Rounds.current_eq` — the height of a follower;
    * `Follower.Rounds.retries_add` — the retries that are left.
-/

import StakeRelay.Proofs.Deposit.Scanning
import StakeRelay.Proofs.Follower.Rounds
import StakeRelay.Proofs.Number.Words

namespace StakeRelay

/-! ## §1. What counts -/

namespace Exchange

/-- Whether the work at a height is done with the exchange: a block inside an epoch was
    read whole, or the cursor behind a boundary was taken. -/
def completes (s : Schedule) : Exchange → Bool
  | ⟨.source (.logs filter), .ok logs⟩ =>
    !s.isBoundary filter.last && (Scanner.decodeFrom filter.last 0 logs).isOk
  | ⟨.checkpoint (.writeCursor _), .ok _⟩ => true
  | _ => false

/-- Whether the exchange costs a retry: the head, a block, the size of the registry or the
    checkpoint fails in a way that may pass. An entry of the registry that is not told is
    left out of it, and an update is never sent again. -/
def costs : Exchange → Bool
  | ⟨.source .head, .error failure⟩ => failure.isTransient
  | ⟨.source (.logs _), .error failure⟩ => failure.isTransient
  | ⟨.source .registrySize, .error failure⟩ => failure.isTransient
  | ⟨.checkpoint _, .error failure⟩ => failure.isTransient
  | _ => false

/-- An exchange that does not count. -/
structure Idle (s : Schedule) (x : Exchange) : Prop where
  incomplete : x.completes s = false
  free : x.costs = false

variable {s : Schedule}

/-- A `Plain` exchange neither completes a height nor costs a retry. -/
theorem Plain.idle {x : Exchange} (plain : x.Plain) : x.Idle s := by
  cases plain with
  | entry asks =>
    obtain ⟨request, reply⟩ := x
    cases asks <;> exact ⟨rfl, rfl⟩
  | _ => exact ⟨rfl, rfl⟩

/-- A block completes its height if it is read whole inside an epoch. -/
theorem completes_logs {scanner : Scanner} {h : UInt64} {logs : List RawLog} :
    completes s ⟨.source (Follower.logsOf scanner h), .ok logs⟩ =
      (!s.isBoundary h && (Scanner.decodeFrom h 0 logs).isOk) := rfl

end Exchange

/-- How many heights were completed. -/
def completions (s : Schedule) (t : List Exchange) : Nat := t.countP (Exchange.completes s)

/-- How many failures have cost a retry since a height was completed last, if there were `k`
    before. -/
def failuresFrom (s : Schedule) (k : Nat) (t : List Exchange) : Nat :=
  t.foldl (fun k x => if x.completes s then 0 else if x.costs then k + 1 else k) k

/-- How many failures have cost a retry since a height was completed last. -/
def failures (s : Schedule) (t : List Exchange) : Nat := failuresFrom s 0 t

section Counts

variable {s : Schedule} {k : Nat} {t u : List Exchange} {x : Exchange}

/-- `completions` adds up over `t ++ u`. -/
theorem completions_append (t u : List Exchange) :
    completions s (t ++ u) = completions s t + completions s u := List.countP_append

/-- Exchanges that are `Idle` complete nothing. -/
theorem completions_idle (idle : ∀ x ∈ t, x.Idle s) : completions s t = 0 := by
  refine List.countP_eq_zero.mpr fun x member => ?_
  rw [(idle x member).incomplete]
  exact Bool.false_ne_true

theorem failures_append (t u : List Exchange) :
    failures s (t ++ u) = failuresFrom s (failures s t) u := List.foldl_append

/-- `failuresFrom` goes over `t` and then over `u`. -/
theorem failuresFrom_append (t u : List Exchange) :
    failuresFrom s k (t ++ u) = failuresFrom s (failuresFrom s k t) u := List.foldl_append

theorem failuresFrom_cons (x : Exchange) (t : List Exchange) : failuresFrom s k (x :: t) =
    failuresFrom s (if x.completes s then 0 else if x.costs then k + 1 else k) t := rfl

/-- Exchanges that are `Idle` cost nothing. -/
theorem failuresFrom_idle (idle : ∀ x ∈ t, x.Idle s) : failuresFrom s k t = k := by
  induction t with
  | nil => rfl
  | cons x t ih =>
    obtain ⟨incomplete, free⟩ := idle x List.mem_cons_self
    rw [failuresFrom_cons, incomplete, free]
    exact ih fun y member => idle y (List.mem_cons_of_mem x member)

end Counts

/-! ## §2. Work at one height -/

/-- The exchange decides whether and how the work at a height fails. -/
def Exchange.Decides (s : Schedule) (x : Exchange) : Option Failure → Prop
  | none => x.completes s = true
  | some failure => x.completes s = false ∧ x.costs = failure.isTransient

/-- The exchanges end with the one that decides, and none before it counts. -/
def Concludes (s : Schedule) (t : List Exchange) (failure : Option Failure) : Prop :=
  ∃ v x, t = v ++ [x] ∧ (∀ y ∈ v, y.Idle s) ∧ x.Decides s failure

/-- The failure of an outcome. -/
def failureOf {α : Type} : Except Failure α → Option Failure
  | .ok _ => none
  | .error failure => some failure

theorem failureOf_map {α β : Type} (outcome : Except Failure α) (f : α → β) :
    failureOf (outcome.map f) = failureOf outcome := by
  cases outcome <;> rfl

section Work

variable {s : Schedule} {h : UInt64} {e : OpenEpoch} {t u : List Exchange}

/-- What `Concludes` does so behind exchanges that are `Idle`. -/
theorem Concludes.behind {failure : Option Failure} (concludes : Concludes s u failure)
    (idle : ∀ x ∈ t, x.Idle s) : Concludes s (t ++ u) failure := by
  obtain ⟨v, x, rfl, later, last⟩ := concludes
  exact ⟨t ++ v, x, (List.append_assoc t v [x]).symm, List.forall_mem_append.mpr ⟨idle, later⟩,
    last⟩

theorem Concludes.behind_plain {failure : Option Failure} (concludes : Concludes s u failure)
    (plain : ∀ x ∈ t, x.Plain) : Concludes s (t ++ u) failure :=
  concludes.behind fun x member => (plain x member).idle

/-- A single exchange `Concludes` if it `Decides`. -/
theorem Concludes.single {x : Exchange} {failure : Option Failure} (decides : x.Decides s failure) :
    Concludes s [x] failure := ⟨[], x, rfl, List.forall_mem_nil _, decides⟩

/-- The taken snapshot does not count, but what follows it may decide (`Decides`). -/
theorem Concludes.behind_snapshot {top : List StakerRecord} {x : Exchange}
    {failure : Option Failure} (decides : x.Decides s failure) :
    Concludes s [⟨.checkpoint (.writeSnapshot top), .ok ()⟩, x] failure :=
  (Concludes.single decides).behind (t := [_]) (List.forall_mem_singleton.mpr ⟨rfl, rfl⟩)

/-- A refused update concludes with `asSubmission failure`. -/
theorem Schedule.concludes_refused (update : Update) (failure : Failure) :
    Concludes s [⟨.submit update, .error failure⟩] (some (asSubmission failure)) :=
  .single ⟨rfl, (asSubmission_fatal failure).symm⟩

/-- The registry half of a boundary `Concludes` with its failure, or as a completion. -/
theorem Schedule.CommitPath.concludes {outcome : Except Failure (Nat × Nat)}
    (path : s.CommitPath h t outcome) : Concludes s t (failureOf outcome) := by
  cases path with
  | unsized failure => exact .single ⟨rfl, rfl⟩
  | unread reads failure => exact Concludes.behind_plain (.single ⟨rfl, rfl⟩) reads.plain
  | refused reads some failure =>
    exact Concludes.behind_plain (Concludes.behind_plain (t := [_]) (concludes_refused _ failure)
      (List.forall_mem_singleton.mpr (.recalled _))) reads.plain
  | unsaved tells failure => exact Concludes.behind_plain (.single ⟨rfl, rfl⟩) tells.plain
  | unmarked tells failure => exact Concludes.behind_plain (.behind_snapshot ⟨rfl, rfl⟩) tells.plain
  | committed tells => exact Concludes.behind_plain (.behind_snapshot rfl) tells.plain

/-- So do both halves (`SettlePath`). -/
theorem Schedule.SettlePath.concludes {done : Except Failure BoundaryReport × OpenEpoch}
    (path : s.SettlePath h e t done) : Concludes s t (failureOf done.1) := by
  cases path with
  | unflushed flush =>
    cases flush with
    | refused some failure => exact concludes_refused _ failure
  | uncommitted flush commit => exact commit.concludes.behind_plain flush.plain
  | settled flush commit => exact commit.concludes.behind_plain flush.plain

/-- So does the work at a height (`WorkPath`). -/
theorem Follower.WorkPath.concludes {scanner : Scanner}
    {done : Except Failure (Option BoundaryReport) × OpenEpoch}
    (path : WorkPath scanner s h e t done) : Concludes s t (failureOf done.1) := by
  cases path with
  | unscanned failure => exact .single ⟨rfl, rfl⟩
  | broken broken =>
    obtain ⟨fault, rfl⟩ := Scanner.decodeFrom_error broken
    refine .single ⟨?_, rfl⟩
    rw [Exchange.completes_logs, broken]
    exact Bool.and_false _
  | inside whole inside =>
    refine .single ?_
    show Exchange.completes s _ = true
    rw [Exchange.completes_logs, whole, inside]
    rfl
  | @boundary logs events u done whole ends settle =>
    have scan : Exchange.Idle s ⟨.source (logsOf scanner h), .ok logs⟩ := by
      refine ⟨?_, rfl⟩
      rw [Exchange.completes_logs, ends]
      rfl
    show Concludes s ([_] ++ u) _
    rw [failureOf_map]
    exact settle.concludes.behind (List.forall_mem_singleton.mpr scan)

end Work

/-! ## §3. Rounds -/

namespace Follower

/-- What the exchanges of a round count, at the end of which the second follower stands. -/
inductive Counts (f g : Follower) : List Exchange → Prop
  /-- None of them counts. -/
  | idle {t : List Exchange} (idle : ∀ x ∈ t, x.Idle f.schedule)
      (height : g.current = f.current) (retries : g.retriesLeft = f.retriesLeft) : Counts f g t
  /-- One costs a retry, and only a pause may follow it. -/
  | spends {v : List Exchange} {x : Exchange} (idle : ∀ y ∈ v, y.Idle f.schedule)
      (left : f.retriesLeft ≠ 0) (incomplete : x.completes f.schedule = false)
      (costs : x.costs = true) (height : g.current = f.current)
      (retries : g.retriesLeft = f.retriesLeft - 1) : Counts f g (v ++ x :: f.pause)
  /-- The last one completes the height. -/
  | passes {v : List Exchange} {x : Exchange} (idle : ∀ y ∈ v, y.Idle f.schedule)
      (left : f.retriesLeft ≠ 0) (completes : x.completes f.schedule = true)
      (height : g.current = f.current + 1) (retries : g.retriesLeft = f.settings.retryLimit) :
      Counts f g (v ++ [x])

variable {f₀ f g : Follower} {s : Schedule} {t : List Exchange}

/-- So does a round that fails (`FailPath`). -/
theorem FailPath.concludes {failure : Failure} {e : OpenEpoch} (fails : FailPath f t failure e) :
    Concludes f.schedule t (some failure) := by
  cases fails with
  | unheard failure =>
    exact Concludes.behind_plain (t := [_]) (.single ⟨rfl, rfl⟩)
      (List.forall_mem_singleton.mpr (.signal false))
  | unworked confirmed work => exact work.concludes.behind_plain (plain_hears _)

/-- At most one exchange of a round counts (`Counts`). -/
theorem TurnPath.counts {turn : Turn} (path : TurnPath f t turn) : Counts f turn.follower t := by
  cases path with
  | asked => exact .idle (List.forall_mem_singleton.mpr (Exchange.Plain.signal _).idle) rfl rfl
  | exhausted => exact .idle (List.forall_mem_singleton.mpr (Exchange.Plain.signal _).idle) rfl rfl
  | early left early =>
    refine .idle (fun x member => Exchange.Plain.idle ?_) rfl rfl
    exact List.forall_mem_append.mpr
      ⟨plain_hears _, List.forall_mem_singleton.mpr (.paused _)⟩ x member
  | passing left fails passing =>
    obtain ⟨v, x, rfl, idle, incomplete, costs⟩ := fails.concludes
    rw [List.append_assoc]
    exact .spends idle left incomplete (costs.trans passing) rfl rfl
  | fatal left fails fatal =>
    obtain ⟨v, x, rfl, idle, incomplete, costs⟩ := fails.concludes
    exact .idle (List.forall_mem_append.mpr ⟨idle, List.forall_mem_singleton.mpr
      ⟨incomplete, costs.trans fatal⟩⟩) rfl rfl
  | passed left confirmed work =>
    obtain ⟨v, x, whole, idle, completes⟩ := work.concludes.behind_plain (plain_hears _)
    rw [whole]
    exact .passes idle left completes rfl rfl

theorem idle_pause (f : Follower) : ∀ x ∈ f.pause, x.Idle s :=
  fun x member => (plain_pause f x member).idle

/-- A round leads one height further for each completion: `g.current = f.current + completions`. -/
theorem Counts.current_eq (counts : Counts f g t) :
    g.current = f.current + .ofNat (completions f.schedule t) := by
  cases counts with
  | idle idle height =>
    rw [height, completions_idle idle, Words.add_ofNat_zero]
  | @spends v x idle left incomplete costs height =>
    have single : completions f.schedule [x] = 0 := by
      simp [completions, incomplete]
    rw [height, ← List.singleton_append, completions_append, completions_append,
      completions_idle idle, single, completions_idle (idle_pause f), Words.add_ofNat_zero]
  | @passes v x idle left completes height =>
    have single : completions f.schedule [x] = 1 := by
      simp [completions, completes]
    rw [height, completions_append, completions_idle idle, single]
    rfl

/-- The failures at a height and `retriesLeft` add up to `retryLimit`. -/
theorem Counts.retries_add {k : Nat} (counts : Counts f g t)
    (before : f.retriesLeft.toNat + k = f.settings.retryLimit.toNat) :
    g.retriesLeft.toNat + failuresFrom f.schedule k t = f.settings.retryLimit.toNat := by
  cases counts with
  | idle idle height retries => rw [retries, failuresFrom_idle idle, before]
  | spends idle left incomplete costs height retries =>
    have some : 0 < f.retriesLeft.toNat :=
      Nat.pos_of_ne_zero fun zero => left (UInt32.toNat_inj.mp zero)
    have less : (f.retriesLeft - 1).toNat = f.retriesLeft.toNat - 1 :=
      UInt32.toNat_sub_of_le _ _ (UInt32.le_iff_toNat_le.mpr some)
    rw [failuresFrom_append, failuresFrom_idle idle, failuresFrom_cons, incomplete, costs,
      failuresFrom_idle (idle_pause f), retries, less]
    simp only [Bool.false_eq_true, if_false, if_true]
    omega
  | passes idle left completes height retries =>
    rw [failuresFrom_append, failuresFrom_idle idle, failuresFrom_cons, completes, retries]
    rfl

/-! ## §4. Runs -/

variable {o : Option (Except Failure Unit)}

/-- The height of a follower is `completions` heights behind the first, as words. -/
theorem Rounds.current_eq (rounds : Rounds f₀ t f o) :
    f.current = f₀.current + .ofNat (completions f₀.schedule t) := by
  induction rounds with
  | start => exact (Words.add_ofNat_zero _).symm
  | round before run path ih =>
    rw [path.counts.current_eq, ih, before.course.2.2, Words.add_ofNat_add, completions_append]

/-- And as natural numbers, as long as the heights do not run out (`fits`). -/
theorem Rounds.place (rounds : Rounds f₀ t f o)
    (fits : f₀.current.toNat + completions f₀.schedule t < 2 ^ 64) :
    f.current.toNat = f₀.current.toNat + completions f₀.schedule t := by
  rw [rounds.current_eq, Words.toNat_add_ofNat fits]

/-- A round that leads one height further is not at `2 ^ 64 - 1`, under the same condition. -/
theorem Rounds.succ {u : List Exchange} {turn : Turn} (before : Rounds f₀ t f none)
    (next : Rounds f₀ (t ++ u) turn.follower turn.outcome)
    (fits : f₀.current.toNat + completions f₀.schedule (t ++ u) < 2 ^ 64)
    (further : turn.follower.current = f.current + 1) :
    f.current.toNat < 2 ^ 64 - 1 ∧ turn.follower.current.toNat = f.current.toNat + 1 := by
  have place := before.place (by rw [completions_append] at fits; omega)
  have ahead := next.place fits
  rw [further, UInt64.toNat_add, completions_append] at ahead
  have one : (1 : UInt64).toNat = 1 := rfl
  have small : f.current.toNat < 2 ^ 64 - 1 := by omega
  exact ⟨small, further ▸ Words.toNat_succ small⟩

/-- The retries that are missing from `retryLimit` are the `failures` at the height. -/
theorem Rounds.retries_add (rounds : Rounds f₀ t f o)
    (start : f₀.retriesLeft = f₀.settings.retryLimit) :
    f.retriesLeft.toNat + failures f₀.schedule t = f₀.settings.retryLimit.toNat := by
  induction rounds with
  | start =>
    rw [start]
    rfl
  | round before run path ih =>
    obtain ⟨settings, -, schedule⟩ := before.course
    rw [failures_append, ← schedule, ← settings]
    refine path.counts.retries_add ?_
    rw [schedule, settings]
    exact ih

end Follower

end StakeRelay
