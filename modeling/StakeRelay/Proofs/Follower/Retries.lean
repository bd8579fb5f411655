/-
  StakeRelay.Proofs.Follower.Retries — how many failures a run bears.

  The failures at a height are counted from the exchanges: those that cost a retry, since a
  height was completed last. A run bears as many of them as are set, and not one more. With
  the last one it falls silent: until it ends, which it does at the top of the next round, it
  calls neither a chain nor the checkpoint.

  Main statements:
    * `Follower.TurnPath.budget` — what a round may still ask;
    * `Follower.Rounds.silent` — behind the last failure nothing is called;
    * `Follower.Rounds.stops` — the run ends there;
    * `retry_budget_is_exact` — the same of a run.
-/

import StakeRelay.Proofs.Checkpoint.DurableKeeping
import StakeRelay.Proofs.Follower.Counts
import StakeRelay.Proofs.Follower.Session

namespace StakeRelay

open Dialogue

/-! ## §1. Calls -/

/-- Whether the request goes to one of the chains or to the checkpoint. -/
def Request.calls : Request → Bool
  | .source _ => true
  | .submit _ => true
  | .checkpoint _ => true
  | .stopRequested => false
  | .wait _ => false

/-- What is no call does not count (`Idle`). -/
theorem Exchange.idle_of_not_calls {s : Schedule} {x : Exchange}
    (quiet : x.request.calls = false) : x.Idle s := by
  obtain ⟨request, reply⟩ := x
  cases request with
  | stopRequested => exact ⟨rfl, rfl⟩
  | wait ms => exact ⟨rfl, rfl⟩
  | _ => cases quiet

namespace Follower

/-! ## §2. Rounds -/

section Turns

variable {f : Follower} {t front rest : List Exchange} {x : Exchange} {turn : Turn} {k : Nat}

/-- Without a retry (`retriesLeft = 0`) a round only looks at the stop signal, and the run ends
    with it. -/
theorem TurnPath.spent (path : TurnPath f t turn) (none : f.retriesLeft = 0) :
    (t = [⟨.stopRequested, true⟩] ∧ turn.outcome = some (.ok ())) ∨
      t = [⟨.stopRequested, false⟩] ∧
        turn = ⟨f.halted, some (.error (.retriesExceeded f.current f.settings.retryLimit)),
          Option.none⟩ := by
  cases path with
  | asked => exact .inl ⟨rfl, rfl⟩
  | exhausted => exact .inr ⟨rfl, rfl⟩
  | early left => exact absurd none left
  | passing left => exact absurd none left
  | fatal left => exact absurd none left
  | passed left => exact absurd none left

/-- Wherever a round stands, the failures (`failuresFrom`) do not exceed the limit. If they
    reach it, the round begins without a retry, or only its pause is ahead. -/
theorem TurnPath.budget (path : TurnPath f (front ++ x :: rest) turn)
    (before : f.retriesLeft.toNat + k = f.settings.retryLimit.toNat) :
    failuresFrom f.schedule k front ≤ f.settings.retryLimit.toNat ∧
      (failuresFrom f.schedule k front = f.settings.retryLimit.toNat →
        (f.retriesLeft = 0 ∧ front = []) ∨ x ∈ f.pause) := by
  by_cases none : f.retriesLeft = 0
  · have alone : front = [] := by
      rcases path.spent none with ⟨single, -⟩ | ⟨single, -⟩
      all_goals
        have := congrArg List.length single
        simp only [List.length_append, List.length_cons, List.length_nil] at this
        exact List.eq_nil_of_length_eq_zero (by omega)
    subst alone
    rw [none] at before
    exact ⟨before ▸ Nat.le_add_left _ _, fun _ => .inl ⟨none, rfl⟩⟩
  have some : 0 < f.retriesLeft.toNat :=
    Nat.pos_of_ne_zero fun zero => none (UInt32.toNat_inj.mp zero)
  -- nothing was counted yet where the exchanges so far are idle
  have early (idle : ∀ y ∈ front, y.Idle f.schedule) :
      failuresFrom f.schedule k front ≤ f.settings.retryLimit.toNat ∧
        (failuresFrom f.schedule k front = f.settings.retryLimit.toNat →
          (f.retriesLeft = 0 ∧ front = []) ∨ x ∈ f.pause) := by
    rw [failuresFrom_idle idle]
    exact ⟨by omega, fun full => absurd full (by omega)⟩
  have counts := path.counts
  generalize whole : front ++ x :: rest = t at counts
  cases counts with
  | idle idle =>
    exact early fun y member => idle y (whole ▸ List.mem_append_left _ member)
  | @spends v y idle left incomplete costs =>
    rcases List.append_eq_append_iff.mp whole with ⟨a, rfl, split⟩ | ⟨a, rfl, split⟩
    · exact early fun z member => idle z (List.mem_append_left _ member)
    · cases a with
      | nil => exact early fun z member => idle z (by simpa using member)
      | cons z a =>
        obtain ⟨rfl, behind⟩ := List.cons.inj split
        have paused : ∀ z ∈ a, z.Idle f.schedule := fun z member =>
          idle_pause f z (behind ▸ List.mem_append_left _ member)
        rw [failuresFrom_append, failuresFrom_idle idle, failuresFrom_cons, incomplete, costs,
          failuresFrom_idle paused]
        simp only [Bool.false_eq_true, if_false, if_true]
        exact ⟨by omega, fun _ => .inr (behind ▸ List.mem_append_right _ List.mem_cons_self)⟩
  | @passes v y idle left completes =>
    rcases List.append_eq_append_iff.mp whole with ⟨a, rfl, split⟩ | ⟨a, rfl, split⟩
    · exact early fun z member => idle z (List.mem_append_left _ member)
    · cases a with
      | nil => exact early fun z member => idle z (by simpa using member)
      | cons z a => simp at split

end Turns

/-! ## §3. Runs -/

section Runs

variable {f₀ f : Follower} {t pre post : List Exchange} {x : Exchange}
  {o : Option (Except Failure Unit)}

/-- Where a run stands in a round, told from its `failures`. -/
theorem Rounds.budget (rounds : Rounds f₀ (pre ++ x :: post) f o)
    (start : f₀.retriesLeft = f₀.settings.retryLimit) :
    failures f₀.schedule pre ≤ f₀.settings.retryLimit.toNat ∧
      (failures f₀.schedule pre = f₀.settings.retryLimit.toNat →
        x.request.calls = false ∧ (x.request = .stopRequested →
          ∃ g rest turn, SameCourse f₀ g ∧ g.retriesLeft = 0 ∧ TurnPath g (x :: rest) turn ∧
            (turn.outcome ≠ none → post = rest ∧ f = turn.follower ∧ o = turn.outcome))) := by
  obtain ⟨top, g, front, rest, turn, rfl, before, path, last⟩ := rounds.locate
  obtain ⟨settings, scanner, schedule⟩ := before.course
  have left := before.retries_add start
  rw [← schedule, ← settings] at left
  obtain ⟨within, full⟩ := path.budget left
  rw [← settings, ← schedule, failures_append]
  refine ⟨within, fun reached => ?_⟩
  rcases full reached with ⟨none, rfl⟩ | paused
  · refine ⟨?_, fun _ => ⟨g, rest, turn, ⟨settings, scanner, schedule⟩, none, path, last⟩⟩
    rcases path.spent none with ⟨single, -⟩ | ⟨single, -⟩
    all_goals
      obtain ⟨rfl, -⟩ := List.cons.inj single
      rfl
  · -- a pause is no call, nor does it look at the stop signal
    exact g.forall_pause (P := fun x => x.request.calls = false ∧ (x.request = .stopRequested → _))
      (fun ms => ⟨rfl, nofun⟩) x paused

theorem Rounds.failures_le (rounds : Rounds f₀ (pre ++ post) f o)
    (start : f₀.retriesLeft = f₀.settings.retryLimit) :
    failures f₀.schedule pre ≤ f₀.settings.retryLimit.toNat := by
  cases post with
  | nil =>
    rw [List.append_nil] at rounds
    have := rounds.retries_add start
    omega
  | cons x post => exact (rounds.budget start).1

/-- Behind the last failure that is borne (`full`), nothing is called. -/
theorem Rounds.silent (rounds : Rounds f₀ (pre ++ post) f o)
    (start : f₀.retriesLeft = f₀.settings.retryLimit)
    (full : failures f₀.schedule pre = f₀.settings.retryLimit.toNat) :
    ∀ x ∈ post, x.request.calls = false := by
  induction post generalizing pre with
  | nil => exact List.forall_mem_nil _
  | cons x post ih =>
    have quiet := ((rounds.budget start).2 full).1
    -- what is no call counts nothing, so the run stands there still
    have still : failures f₀.schedule (pre ++ [x]) = f₀.settings.retryLimit.toNat := by
      rw [failures_append, failuresFrom_idle, full]
      exact List.forall_mem_singleton.mpr (Exchange.idle_of_not_calls quiet)
    rw [List.append_cons] at rounds
    exact List.forall_mem_cons.mpr ⟨quiet, ih rounds still⟩

/-- There the run ends at the top of the next round, unless it is asked to stop. -/
theorem Rounds.stops (rounds : Rounds f₀ (pre ++ ⟨.stopRequested, false⟩ :: post) f o)
    (start : f₀.retriesLeft = f₀.settings.retryLimit)
    (full : failures f₀.schedule pre = f₀.settings.retryLimit.toNat) :
    post = [] ∧ o = some (.error (.retriesExceeded f.current f₀.settings.retryLimit)) := by
  obtain ⟨g, rest, turn, course, none, path, last⟩ := ((rounds.budget start).2 full).2 rfl
  rcases path.spent none with ⟨single, -⟩ | ⟨single, rfl⟩
  · cases single
  · obtain ⟨-, rfl⟩ := List.cons.inj single
    obtain ⟨rfl, rfl, rfl⟩ := last nofun
    exact ⟨rfl, by rw [← course.1]; rfl⟩

end Runs

/-! ## §4. Where failures come from -/

/-- Where a failure that ends the work at a height comes from. -/
inductive Origin (t : List Exchange) : Failure → Prop
  | source {q : SourceQuery} {failure : Failure}
      (told : ⟨.source q, .error failure⟩ ∈ t) : Origin t failure
  | checkpoint {q : CheckpointQuery} {failure : Failure}
      (told : ⟨.checkpoint q, .error failure⟩ ∈ t) : Origin t failure
  | decode (fault : DecodeFault) : Origin t (.decode fault)
  | submission (fault : SubmissionFault) : Origin t (.submission fault)

theorem Origin.mono {t u : List Exchange} {failure : Failure} (origin : Origin t failure)
    (within : t ⊆ u) : Origin u failure := by
  cases origin with
  | source told => exact .source (within told)
  | checkpoint told => exact .checkpoint (within told)
  | decode fault => exact .decode fault
  | submission fault => exact .submission fault

theorem origin_refused (t : List Exchange) (failure : Failure) :
    Origin t (Schedule.asSubmission failure) := by
  cases failure <;> exact .submission _

section Origins

variable {s : Schedule} {h : UInt64} {e : OpenEpoch} {t : List Exchange} {failure : Failure}

theorem origin_of_commitPath (path : s.CommitPath h t (.error failure)) : Origin t failure := by
  cases path with
  | unsized => exact .source List.mem_cons_self
  | unread => exact .checkpoint (List.mem_append_right _ List.mem_cons_self)
  | refused => exact origin_refused _ _
  | unsaved => exact .checkpoint (List.mem_append_right _ List.mem_cons_self)
  | unmarked =>
    exact .checkpoint (List.mem_append_right _ (List.mem_cons_of_mem _ List.mem_cons_self))

theorem origin_of_settlePath {e' : OpenEpoch} (path : s.SettlePath h e t (.error failure, e')) :
    Origin t failure := by
  cases path with
  | unflushed flush =>
    cases flush with
    | refused => exact origin_refused _ _
  | uncommitted flush commit =>
    exact (origin_of_commitPath commit).mono (List.subset_append_right _ _)

theorem origin_of_workPath {scanner : Scanner}
    {done : Except Failure (Option BoundaryReport) × OpenEpoch}
    (path : WorkPath scanner s h e t done) (failed : failureOf done.1 = some failure) :
    Origin t failure := by
  cases path with
  | unscanned =>
    cases failed
    exact .source List.mem_cons_self
  | broken broken =>
    cases failed
    obtain ⟨fault, rfl⟩ := Scanner.decodeFrom_error broken
    exact .decode fault
  | inside => cases failed
  | @boundary logs events u done whole ends settle =>
    obtain ⟨outcome, e'⟩ := done
    rw [failureOf_map] at failed
    cases outcome with
    | ok report => cases failed
    | error failure' =>
      cases failed
      exact (origin_of_settlePath settle).mono (List.subset_cons_self _ _)

theorem FailPath.origin {f : Follower} (fails : FailPath f t failure e) : Origin t failure := by
  cases fails with
  | unheard => exact .source (List.mem_cons_of_mem _ List.mem_cons_self)
  | unworked confirmed work =>
    exact (origin_of_workPath work rfl).mono (List.subset_append_right _ _)

/-- A round that ends a run for want of retries had none, or was told so by a partner
    (`Origin`). -/
theorem TurnPath.exceeded {f : Follower} {turn : Turn} {height : UInt64} {attempts : UInt32}
    (path : TurnPath f t turn)
    (ends : turn.outcome = some (.error (.retriesExceeded height attempts))) :
    (f.retriesLeft = 0 ∧ t = [⟨.stopRequested, false⟩] ∧ height = turn.follower.current ∧
      attempts = f.settings.retryLimit) ∨ Origin t (.retriesExceeded height attempts) := by
  cases path with
  | exhausted none =>
    cases ends
    exact .inl ⟨none, rfl, rfl, rfl⟩
  | fatal left fails fatal =>
    cases ends
    exact .inr fails.origin
  | _ => cases ends

end Origins

end Follower

/-! ## §5. Checkpoints -/

open SnapshotForm (OwnFailure)

/-- A checkpoint whose failures are its own (`OwnFailure`) does not report that the retries are
    used up. -/
theorem Storing.not_exceeded {σ : Type} {k : Storing σ} {s s' : σ} {t : List Exchange}
    (own : ∀ s q failure s', k.answers s q (.error failure) s' → OwnFailure failure)
    (through : k.goes.Through s t s') (q : CheckpointQuery) (height : UInt64)
    (attempts : UInt32) : ⟨.checkpoint q, .error (.retriesExceeded height attempts)⟩ ∉ t := by
  intro member
  have owned := through.each (P := fun x => ∀ q failure,
    x = ⟨.checkpoint q, .error failure⟩ → OwnFailure failure) fun g x g' goes q failure same => by
      subst same
      exact own g q failure g' goes
  cases owned _ member q _ rfl

/-- The checkpoint in memory, `Keeping.volatile`, does not. -/
theorem Keeping.volatile_own (c : VolatileCheckpoint) (q : CheckpointQuery) (failure : Failure)
    (c' : VolatileCheckpoint) (may : Keeping.volatile.answers c q (.error failure) c') :
    OwnFailure failure := by
  rcases may with answered | ⟨⟨fault, refused⟩, -⟩
  · exact VolatileCheckpoint.own_failure answered
  · cases refused
    exact .storage fault

/-- Nor does the checkpoint in two files, `Storing.durable`. -/
theorem Storing.durable_own (c : DurableCheckpoint) (fs : FileSystem) (q : CheckpointQuery)
    (failure : Failure) (fs' : FileSystem)
    (may : (Storing.durable c).answers fs q (.error failure) fs') : OwnFailure failure :=
  DurableCheckpoint.MayAnswer.lasting may failure rfl

/-! ## §6. The budget -/

/-- The budget for failures is kept to the last one. Let `k` be the number of failures that
    have cost a retry at the height that is reached: of the head, of the block, of the size
    of the registry or of the checkpoint, each in a way that may pass. A head at which the
    height is not yet confirmed counts for nothing, and completing a height sets `k` to zero.
    If no partner reports of its own that the retries are used up, as neither kind of
    checkpoint does (`Storing.not_exceeded`),
      * `k` does not exceed the limit, and as soon as it has reached it, neither a chain nor
        the checkpoint is called again, so with a limit of zero they are never called;
      * the run ends for want of retries if it looks at the stop signal then, and the signal
        is not raised;
      * it does so in no other case, and reports its height and the limit;
      * at every loop top and at the end of the run the height and the retries that are left
        are those that the exchanges tell. -/
theorem retry_budget_is_exact {settings : FollowerSettings} {scanner : Scanner}
    {schedule : Schedule} {n : Nat} {t : List Exchange} {d : Dialogue Follower.Run}
    (path : Path (Follower.run n (.ofSettings settings scanner schedule)) t d)
    (source : ∀ q height attempts, ⟨.source q, .error (.retriesExceeded height attempts)⟩ ∉ t)
    (checkpoint : ∀ q height attempts,
      ⟨.checkpoint q, .error (.retriesExceeded height attempts)⟩ ∉ t) :
    let limit := settings.retryLimit.toNat
    let k := failures schedule
    (∀ pre post, t = pre ++ post →
      k pre ≤ limit ∧ (k pre = limit → ∀ x ∈ post, x.request.calls = false)) ∧
    (∀ pre post, t = pre ++ ⟨.stopRequested, false⟩ :: post → k pre = limit →
      post = [] ∧ ∃ r, d = .done r ∧
        r.outcome = some (.error (.retriesExceeded r.follower.current settings.retryLimit))) ∧
    (∀ r height attempts, d = .done r →
      r.outcome = some (.error (.retriesExceeded height attempts)) →
      height = r.follower.current ∧ attempts = settings.retryLimit ∧
        ∃ pre, t = pre ++ [⟨.stopRequested, false⟩] ∧ k pre = limit) ∧
    (∀ r, d = .done r →
      r.follower.current = settings.start + .ofNat (completions schedule t) ∧
        r.follower.retriesLeft.toNat + k t = limit) := by
  intro limit k
  obtain ⟨u, r, rounds, rest⟩ := Follower.exists_rounds rfl path
  -- a run that has come to its end goes on with nothing
  have whole : ∀ r', d = .done r' → u = [] ∧ r = r' := by
    intro r' ended
    rw [ended] at rest
    exact rest.ends_done
  refine ⟨fun pre post split => ?_, fun pre post split full => ?_, fun r' h a ended outcome => ?_,
    fun r' ended => ?_⟩
  · rw [split, List.append_assoc] at rounds
    refine ⟨rounds.failures_le rfl, fun full x member => ?_⟩
    exact rounds.silent rfl full x (List.mem_append_left _ member)
  · rw [split, List.append_assoc] at rounds
    obtain ⟨nothing, outcome⟩ := rounds.stops rfl full
    obtain ⟨rfl, rfl⟩ := List.append_eq_nil_iff.mp nothing
    cases rest with
    | here => exact ⟨rfl, r, rfl, outcome⟩
  · obtain ⟨rfl, rfl⟩ := whole r' ended
    rw [List.append_nil, outcome] at rounds
    obtain ⟨top, g, v, turn, rfl, before, last, stands, ends⟩ := rounds.ended
    rcases last.exceeded ends with ⟨none, rfl, height, attempts⟩ | told
    · have spent := before.retries_add rfl
      rw [none, show (0 : UInt32).toNat = 0 from rfl, Nat.zero_add] at spent
      rw [before.course.1] at attempts
      exact ⟨stands ▸ height, attempts, top, rfl, spent⟩
    · cases told with
      | source told => exact absurd (List.mem_append_right _ told) (source _ h a)
      | checkpoint told => exact absurd (List.mem_append_right _ told) (checkpoint _ h a)
  · obtain ⟨rfl, rfl⟩ := whole r' ended
    rw [List.append_nil] at rounds
    exact ⟨rounds.current_eq, rounds.retries_add rfl⟩

namespace Session

/-- Two rounds in which the head is not told. -/
def unheardRounds : List Exchange :=
  [⟨.stopRequested, false⟩, ⟨.source .head, .error (.network .simulatedHead)⟩, ⟨.wait 0, ()⟩,
   ⟨.stopRequested, false⟩, ⟨.source .head, .error (.network .simulatedHead)⟩]

theorem path_unheard :
    ∃ d, Path (Follower.run 3 shortStart) (unheardRounds ++ [⟨.stopRequested, false⟩]) d := by
  apply Exists.intro
  with_unfolding_all
    iterate 6 apply Path.step
    apply Path.here

end Session

open Session in
/-- A follower that bears two failures ends at the top of the third round. -/
theorem third_round_is_exceeded :
    ∃ r, Path (Follower.run 3 shortStart) (unheardRounds ++ [⟨.stopRequested, false⟩]) (.done r) ∧
      r.outcome = some (.error (.retriesExceeded r.follower.current 2)) := by
  obtain ⟨d, path⟩ := path_unheard
  have source : ∀ q height attempts, ⟨.source q, .error (.retriesExceeded height attempts)⟩ ∉
      unheardRounds ++ [⟨.stopRequested, false⟩] := by
    intro q height attempts member
    simp [unheardRounds] at member
    obtain ⟨rfl, same⟩ := member
    cases same
  have through : Keeping.volatile.goes.Through .empty
      (unheardRounds ++ [⟨.stopRequested, false⟩]) .empty := by
    iterate 6 refine .step rfl ?_
    exact .here _
  obtain ⟨-, r, rfl, outcome⟩ := (retry_budget_is_exact path source
    (Storing.not_exceeded Keeping.volatile_own through)).2.1 unheardRounds [] rfl (by decide)
  exact ⟨r, path, outcome⟩

end StakeRelay
