/-
  StakeRelay.Proofs.Follower.Reports — where a run commits first.

  A round reports a boundary just if it is the height of the follower and its epoch was
  settled. Otherwise the follower stays at its height, or goes one height further from one
  that is no boundary. So a run cannot go past the first boundary from its start without a
  report of it, and that is its first report.

  Main statements:
    * `Follower.TurnPath.reports` — what a round reports, and where it leads;
    * `Follower.firstAt_of_turns` — the first report of any number of rounds;
    * `Launch.firstAt_of_service` — the same of a service that goes on from the cursor.
-/

import StakeRelay.Proofs.Follower.Progress
import StakeRelay.Service.Launch

namespace StakeRelay

open Dialogue

/-! ## §1. The first boundary -/

section Boundaries

variable {s : Schedule} {height first : Nat}

/-- The first boundary stays the first one behind a height where no epoch ends (`inside`). -/
theorem Schedule.isLeast_succ (least : IsLeast (s.boundariesFrom height) first)
    (inside : ¬ s.epochLength.toNat ∣ height) : IsLeast (s.boundariesFrom (height + 1)) first := by
  have other : first ≠ height := fun same => inside (same ▸ least.1.1)
  refine ⟨⟨least.1.1, ?_⟩, fun b later => least.2 ⟨later.1, Nat.le_of_succ_le later.2⟩⟩
  have := least.1.2
  omega

/-- A boundary from which on `first` is the first one is `first` itself. -/
theorem Schedule.eq_of_isLeast (least : IsLeast (s.boundariesFrom height) first)
    (ends : s.epochLength.toNat ∣ height) : height = first :=
  Nat.le_antisymm least.1.2 (least.2 ⟨ends, Nat.le_refl height⟩)

end Boundaries

namespace Follower

/-! ## §2. A round -/

section Turns

variable {f : Follower} {t : List Exchange}

/-- Work that is done reports its height just if an epoch ends there (`isBoundary`). -/
theorem WorkPath.reports {scanner : Scanner} {schedule : Schedule} {height : UInt64}
    {e : OpenEpoch} {done : Except Failure (Option BoundaryReport) × OpenEpoch}
    {report : Option BoundaryReport} (path : WorkPath scanner schedule height e t done)
    (whole : done.1 = .ok report) :
    report = none ∧ schedule.isBoundary height = false ∨
      ∃ r, report = some r ∧ r.height = height ∧ schedule.isBoundary height = true := by
  cases path with
  | unscanned failure => cases whole
  | broken broken => cases whole
  | inside _ inside =>
    cases whole
    exact .inl ⟨rfl, inside⟩
  | boundary _ ends settle =>
    cases settle with
    | unflushed => cases whole
    | uncommitted => cases whole
    | settled =>
      cases whole
      exact .inr ⟨_, rfl, rfl, ends⟩

/-- A round without a report (`committed = none`) stays at its height or leads one further, and
    one with a report was at a boundary. -/
theorem TurnPath.reports {turn : Turn} (path : TurnPath f t turn) :
    turn.committed = none ∧ (turn.follower.current = f.current ∨
      turn.follower.current = f.current + 1 ∧ f.schedule.isBoundary f.current = false) ∨
    ∃ r, turn.committed = some r ∧ r.height = f.current ∧
      f.schedule.isBoundary f.current = true := by
  cases path with
  | passed left confirmed work =>
    rcases work.reports rfl with ⟨none, inside⟩ | reported
    · exact .inl ⟨none, .inr ⟨rfl, inside⟩⟩
    · exact .inr reported
  | _ => exact .inl ⟨rfl, .inl rfl⟩

end Turns

/-! ## §3. Runs -/

/-- The first of some rounds, and the rounds behind it if it does not end the run. -/
theorem turns_of_path {n : Nat} {f : Follower} {t : List Exchange} {r : Run}
    (polling : f.phase = .polling) (path : Path (turns (n + 1) f) t (.done r)) :
    ∃ turn u v later, t = u ++ v ∧ TurnPath f u turn ∧
      r.committed = turn.committed.toList ++ later ∧
      ((∃ outcome, turn.outcome = some outcome ∧ r.follower = turn.follower ∧ later = []) ∨
        ∃ run, turn.outcome = none ∧ Path (turns n turn.follower) v (.done run) ∧
          r.follower = run.follower ∧ later = run.committed) := by
  unfold turns at path
  obtain ⟨turn, u, v, rfl, round, rest⟩ := Path.ends_bind path
  refine ⟨turn, u, v, ?_⟩
  have way := turnPath_of_path polling round
  cases ended : turn.outcome with
  | some outcome =>
    rw [ended] at rest
    obtain ⟨-, rfl⟩ := Path.ends_done rest
    exact ⟨[], rfl, way, (List.append_nil _).symm, .inl ⟨outcome, rfl, rfl, rfl⟩⟩
  | none =>
    rw [ended] at rest
    obtain ⟨run, v, u', rfl, later, last⟩ := Path.ends_bind rest
    obtain ⟨rfl, rfl⟩ := Path.ends_done last
    rw [List.append_nil]
    exact ⟨run.committed, rfl, way, rfl, .inr ⟨run, rfl, later, rfl, rfl⟩⟩

/-- The first report is the one of the given height. Without a report the run has not gone
    past it. -/
def Run.FirstAt (r : Run) (first : Nat) : Prop :=
  match r.committed with
  | [] => r.follower.current.toNat ≤ first
  | report :: _ => report.height.toNat = first

theorem firstAt_of_turns {n : Nat} {f : Follower} {t : List Exchange} {r : Run} {first : Nat}
    (polling : f.phase = .polling) (path : Path (turns n f) t (.done r))
    (least : IsLeast (f.schedule.boundariesFrom f.current.toNat) first)
    (small : first < 2 ^ 64) : r.FirstAt first := by
  -- induction on the rounds; `first` stays ahead until a round reports it
  induction n generalizing f t r with
  | zero =>
    obtain ⟨-, rfl⟩ := Path.ends_done path
    exact least.1.2
  | succ n ih =>
    obtain ⟨turn, u, v, later, -, way, reports, rest⟩ := turns_of_path polling path
    rcases way.reports with ⟨none, place⟩ | ⟨report, some, place, ends⟩
    · -- the boundary is ahead of the next round as it was ahead of this one
      have ahead : IsLeast (turn.follower.schedule.boundariesFrom turn.follower.current.toNat)
          first := by
        rw [way.course.2.2]
        rcases place with place | ⟨place, inside⟩
        · rw [place]
          exact least
        · have inside : ¬ f.schedule.epochLength.toNat ∣ f.current.toNat := fun ends => by
            rw [(Ground.isBoundary_iff _ _).mpr ends] at inside
            cases inside
          have least := Schedule.isLeast_succ least inside
          have := least.1.2
          rw [place, Words.toNat_succ (by omega)]
          exact least
      rw [none, Option.toList_none, List.nil_append] at reports
      unfold Run.FirstAt
      rcases rest with ⟨outcome, -, place, rfl⟩ | ⟨run, on, others, place, rfl⟩
      · rw [reports, place]
        exact ahead.1.2
      · rw [reports, place]
        exact ih (way.polling polling on) others ahead
    · unfold Run.FirstAt
      rw [reports, some]
      show report.height.toNat = first
      rw [place]
      exact Schedule.eq_of_isLeast least ((Ground.isBoundary_iff _ _).mp ends)

end Follower

/-! ## §4. The service -/

namespace Launch

variable {l : Launch} {n : Nat} {cursor : UInt64} {t : List Exchange} {r : Follower.Run}

/-- A service that comes to a run has read the cursor first, and starts at the greater of it and
    `settings.start`. -/
theorem run_of_service
    (path : Path (l.service n).run (⟨.checkpoint .readCursor, .ok cursor⟩ :: t) (.done (.ok r))) :
    Path ((l.follower (max cursor l.settings.start)).run n) t (.done r) := by
  unfold service at path
  rcases path.ends_attempt with ⟨failure, -, failed⟩ | ⟨start, u, v, split, resumes, runs⟩
  · cases failed
  unfold Follower.resumeHeight at resumes
  rcases resumes.ends_attempt with ⟨failure, -, failed⟩ | ⟨held, u₁, u₂, rfl, reads, last⟩
  · cases failed
  obtain rfl := Path.ends_request reads
  obtain ⟨rfl, same⟩ := Path.ends_done last
  injection split with read rest
  injection read with _ same_cursor
  obtain rfl : cursor = held := Except.ok.inj same_cursor
  obtain rfl := Except.ok.inj same
  obtain rfl : t = v := rest
  rw [attempt_lift] at runs
  obtain ⟨run, v₁, v₂, rfl, whole, last⟩ := Path.ends_bind runs
  obtain ⟨rfl, same⟩ := Path.ends_done last
  obtain rfl := Except.ok.inj same
  rw [List.append_nil]
  exact whole

/-- A service that goes on from the cursor reports the first boundary from there on first
    (`FirstAt`). -/
theorem firstAt_of_service {first : Nat} (resumed : l.settings.start ≤ cursor)
    (path : Path (l.service n).run (⟨.checkpoint .readCursor, .ok cursor⟩ :: t) (.done (.ok r)))
    (least : IsLeast (l.schedule.boundariesFrom cursor.toNat) first) (small : first < 2 ^ 64) :
    r.FirstAt first := by
  have start : max cursor l.settings.start = cursor := by
    rw [← UInt64.toNat_inj, Words.toNat_max]
    exact max_eq_left (UInt64.le_iff_toNat_le.mp resumed)
  have run := run_of_service path
  rw [start] at run
  exact Follower.firstAt_of_turns rfl run least small

end Launch

end StakeRelay
