/-
  StakeRelay.Proofs.Follower.Refusal — a refused update ends the run.

  Whether the destination took an update that it answered with a failure is not known, so the
  update must not be sent again. A run therefore ends with the first refusal, whatever its
  class: the failure is turned into one of submission on its way to the loop, which never
  tries such a failure again. Up to there the attempt has only read, so the checkpoint is as
  it was; and the deposits of the epoch stay until their own update is accepted.

  Main statements:
    * `Storing.through_still` — a checkpoint that is only read;
    * `refused_update_ends_the_run` — a run in which an update is refused.
-/

import StakeRelay.Proofs.Checkpoint.DurableKeeping
import StakeRelay.Proofs.Follower.Offers
import StakeRelay.Proofs.Follower.Session

namespace StakeRelay

open Dialogue

/-! ## §1. A checkpoint that is only read -/

theorem Exchange.Plain.reads {x : Exchange} (plain : x.Plain) : x.request.writes = false := by
  cases plain with
  | entry asks =>
    obtain ⟨request, reply⟩ := x
    cases asks <;> rfl
  | _ => rfl

/-- An attempt up to the refused update only reads (`Request.writes`). -/
theorem Follower.Attempted.reads {f : Follower} {e : OpenEpoch} {update : Update}
    {t : List Exchange} (attempted : f.Attempted e update t) :
    ∀ x ∈ t, x.request.writes = false := by
  have plain {u : List Exchange} (plain : ∀ x ∈ u, x.Plain) : ∀ x ∈ u, x.request.writes = false :=
    fun x member => (plain x member).reads
  cases attempted with
  | intro whole ends offered =>
    refine List.forall_mem_append.mpr ⟨plain (plain_hears _), List.forall_mem_cons.mpr ⟨rfl, ?_⟩⟩
    cases offered with
    | deposits => exact List.forall_mem_nil _
    | registry flush reads =>
      exact List.forall_mem_append.mpr ⟨plain flush.plain, List.forall_mem_append.mpr
        ⟨plain reads.plain, List.forall_mem_singleton.mpr rfl⟩⟩

/-- A checkpoint that changes by writes only (`still`) is as it was where it was only read. -/
theorem Storing.through_still {σ : Type} {k : Storing σ}
    (still : ∀ s q reply s', (Request.checkpoint q).writes = false → k.answers s q reply s' → s' = s)
    {s s' : σ} {t : List Exchange} (through : k.goes.Through s t s')
    (reads : ∀ x ∈ t, x.request.writes = false) : s' = s := by
  induction through with
  | here s => rfl
  | @step s s' s'' x t first rest ih =>
    obtain ⟨here, later⟩ := List.forall_mem_cons.mp reads
    obtain ⟨request, reply⟩ := x
    have same : s' = s := by
      cases request with
      | checkpoint q => exact still s q reply s' here first
      | _ => exact first
    exact (ih later).trans same

/-- The checkpoint in memory does: `Keeping.volatile` changes by writes only. -/
theorem Keeping.volatile_still (c : VolatileCheckpoint) (q : CheckpointQuery)
    (reply : Except Failure q.Reply) (c' : VolatileCheckpoint)
    (reads : (Request.checkpoint q).writes = false)
    (may : Keeping.volatile.answers c q reply c') : c' = c := by
  rcases may with answered | ⟨-, same⟩
  · cases q with
    | readCursor => exact (Prod.mk.inj answered).2
    | readSnapshot => exact (Prod.mk.inj answered).2
    | writeCursor h => cases reads
    | writeSnapshot rs => cases reads
  · exact same

/-- So does the checkpoint in two files, `Storing.durable`. -/
theorem Storing.durable_still (c : DurableCheckpoint) (fs : FileSystem) (q : CheckpointQuery)
    (reply : Except Failure q.Reply) (fs' : FileSystem)
    (reads : (Request.checkpoint q).writes = false)
    (may : (Storing.durable c).answers fs q reply fs') : fs' = fs := by
  cases q with
  | readCursor => exact may.2
  | readSnapshot => exact may.2
  | writeCursor h => cases reads
  | writeSnapshot rs => cases reads

/-! ## §2. Runs -/

namespace Follower

theorem TurnPath.fatal_of_error {f : Follower} {t : List Exchange} {turn : Turn}
    {failure : Failure} (path : TurnPath f t turn)
    (ended : turn.outcome = some (.error failure)) : failure.isTransient = false := by
  cases path with
  | exhausted =>
    cases ended
    rfl
  | fatal left fails fatal =>
    cases ended
    exact fatal
  | _ => cases ended

end Follower

/-- A refused update ends the run, whatever the failure is, and is not sent again. For a
    follower between two runs, with any deposits, and whatever the partners do,
      * behind a refused update nothing is asked any more, and the run ends with a failure of
        submission. After `m` whole rounds the follower stood at the boundary as `g`, and it
        still stands there; the attempt up to the refusal has only read, so the checkpoint is
        as it was before the attempt, in memory as in files. If the update was that of the
        deposits, nothing but the head and the block was asked for in the attempt, and all
        the deposits stay (`Schedule.Offered.deposits`);
      * so a run never ends with a failure of the network. -/
theorem refused_update_ends_the_run {f : Follower} {n : Nat} {t : List Exchange}
    {d : Dialogue Follower.Run} (rests : f.phase = .polling ∨ f.phase = .stopped)
    (path : Path (f.run n) t d) :
    (∀ pre update failure post, t = pre ++ ⟨.submit update, .error failure⟩ :: post →
      post = [] ∧ ∃ r, d = .done r ∧
        (∃ fault, Schedule.asSubmission failure = .submission fault ∧
          r.outcome = some (.error (.submission fault))) ∧
        ∃ m reports g top attempt, pre = top ++ attempt ∧
          Path (f.turns m) top (.done ⟨g, none, reports⟩) ∧ r.follower.current = g.current ∧
          g.Attempted r.follower.epoch update attempt ∧
          (∀ c c', Keeping.volatile.goes.Through c
            (attempt ++ [⟨.submit update, .error failure⟩]) c' → c' = c) ∧
          ∀ checkpoint fs fs', (Storing.durable checkpoint).goes.Through fs
            (attempt ++ [⟨.submit update, .error failure⟩]) fs' → fs' = fs) ∧
    ∀ r fault, d = .done r → r.outcome ≠ some (.error (.network fault)) := by
  rcases rests with polling | stopped
  case inr =>
    -- a stopped follower asks nothing
    unfold Follower.run at path
    rw [if_pos stopped] at path
    cases path with
    | here =>
      refine ⟨fun pre update failure post split => ?_, fun r fault ended outcome => ?_⟩
      · simp at split
      · cases ended
        cases outcome
  obtain ⟨u, r, rounds, rest⟩ := Follower.exists_rounds polling path
  constructor
  · intro pre update failure post split
    rw [split, List.append_assoc] at rounds
    obtain ⟨top, g, front, rest', turn, rfl, before, way, last⟩ := rounds.locate
    obtain ⟨e, attempted, refused⟩ := way.offers front update _ rest' rfl
    obtain ⟨rfl, ended, stays, rfl⟩ := refused failure rfl
    obtain ⟨nothing, follower, outcome⟩ := last (by rw [ended]; nofun)
    obtain ⟨rfl, rfl⟩ := List.append_eq_nil_iff.mp nothing
    obtain ⟨m, reports, loop⟩ := before.path rfl
    have reads : ∀ x ∈ front ++ [⟨.submit update, .error failure⟩], x.request.writes = false :=
      List.forall_mem_append.mpr ⟨attempted.reads, List.forall_mem_singleton.mpr rfl⟩
    have submission : ∃ fault, Schedule.asSubmission failure = .submission fault := by
      cases failure <;> exact ⟨_, rfl⟩
    obtain ⟨fault, same⟩ := submission
    refine ⟨rfl, r, ?_, ⟨fault, same, ?_⟩, m, reports, g, top, front, rfl, loop, ?_, ?_, ?_, ?_⟩
    · cases rest with
      | here => rfl
    · rw [outcome, ended, same]
    · rw [follower, stays]
    · rw [follower]
      exact attempted
    · exact fun c c' through => Storing.through_still Keeping.volatile_still through reads
    · exact fun checkpoint fs fs' through =>
        Storing.through_still (Storing.durable_still checkpoint) through reads
  · intro r' fault ended outcome
    rw [ended] at rest
    obtain ⟨rfl, rfl⟩ := rest.ends_done
    rw [outcome] at rounds
    obtain ⟨top, g, v, turn, -, -, way, -, ended⟩ := rounds.ended
    cases way.fatal_of_error ended

namespace Session

/-- The destination does not answer, which is no failure of submission by itself. -/
def refusedFlush : Exchange :=
  ⟨.submit ⟨updateCall, Ranking.top [StakerRecord.ofAddress shortStaker shortAmount]⟩,
    .error (.network .simulatedHead)⟩

theorem path_refused : ∃ d, Path (Follower.run 2 shortStart) (shortScan ++ [refusedFlush]) d := by
  apply Exists.intro
  with_unfolding_all
    iterate 4 apply Path.step
    apply Path.here

end Session

open Session in
/-- The run ends where the update of the deposits is refused (`refusedFlush`). -/
theorem unanswered_update_ends_the_run :
    ∃ r, Path (Follower.run 2 shortStart) (shortScan ++ [refusedFlush]) (.done r) ∧
      ∃ fault, r.outcome = some (.error (.submission fault)) := by
  obtain ⟨d, path⟩ := path_refused
  obtain ⟨-, r, rfl, ⟨fault, -, outcome⟩, -⟩ :=
    (refused_update_ends_the_run (.inl rfl) path).1 shortScan _ _ [] rfl
  exact ⟨r, path, fault, outcome⟩

end StakeRelay
