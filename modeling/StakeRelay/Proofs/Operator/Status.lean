/-
  StakeRelay.Proofs.Operator.Status — the summary of a checkpoint and the schedule agree.

  The summary finds the next boundary by a division, the schedule knows each boundary by its
  remainder. Both have the same first boundary at or behind any cursor. Where it does not fit
  64 bits there is none, and the summary shows the greatest word.

  Main statements:
    * `Schedule.isLeast_of_not_dvd` — the first boundary behind a height that is none;
    * `Operator.Status.toNat_boundaryFrom` — what the summary finds;
    * `status_agrees_with_schedule` — the whole summary, and a service that goes on from there.
-/

import Mathlib.Order.Bounds.Basic
import StakeRelay.Operator.Status
import StakeRelay.Proofs.Follower.Reports

namespace StakeRelay

/-! ## §1. The first boundary from a height on -/

namespace Schedule

variable {s : Schedule} {height first : Nat}

theorem isLeast_of_dvd (ends : s.epochLength.toNat ∣ height) :
    IsLeast (s.boundariesFrom height) height :=
  ⟨⟨ends, Nat.le_refl height⟩, fun _ later => later.2⟩

theorem isLeast_of_not_dvd (inside : ¬ s.epochLength.toNat ∣ height) :
    IsLeast (s.boundariesFrom height)
      ((height / s.epochLength.toNat + 1) * s.epochLength.toNat) := by
  have pos := s.length_pos
  refine ⟨⟨Nat.dvd_mul_left _ _, ?_⟩, ?_⟩
  · rw [Nat.mul_comm]
    exact Nat.le_of_lt (Nat.lt_mul_div_succ height pos)
  · rintro b ⟨⟨k, rfl⟩, later⟩
    have other : height ≠ s.epochLength.toNat * k := fun same => inside ⟨k, same⟩
    have below : height / s.epochLength.toNat < k :=
      (Nat.div_lt_iff_lt_mul pos).mpr (by rw [Nat.mul_comm]; omega)
    rw [Nat.mul_comm]
    exact Nat.mul_le_mul_left _ below

/-- The first boundary is less than an `epochLength` away. -/
theorem lt_of_isLeast (least : IsLeast (s.boundariesFrom height) first) :
    first < height + s.epochLength.toNat := by
  have pos := s.length_pos
  refine Nat.lt_of_not_le fun far => ?_
  have nearer := least.2 ⟨Nat.dvd_sub least.1.1 (Nat.dvd_refl _), Nat.le_sub_of_add_le far⟩
  omega

/-- As far as 64 bits go, the first boundary is the least word that ends an epoch. -/
theorem isLeast_word {cursor next : UInt64}
    (least : IsLeast (s.boundariesFrom cursor.toNat) next.toNat) :
    IsLeast {h : UInt64 | cursor ≤ h ∧ s.isBoundary h = true} next := by
  refine ⟨⟨UInt64.le_iff_toNat_le.mpr least.1.2, (Ground.isBoundary_iff s next).mpr least.1.1⟩, ?_⟩
  rintro h ⟨later, ends⟩
  exact UInt64.le_iff_toNat_le.mpr
    (least.2 ⟨(Ground.isBoundary_iff s h).mp ends, UInt64.le_iff_toNat_le.mp later⟩)

/-- If it does not fit 64 bits (`large`), no word at or behind the cursor ends an epoch. -/
theorem not_isBoundary_of_large {cursor h : UInt64}
    (least : IsLeast (s.boundariesFrom cursor.toNat) first) (large : 2 ^ 64 ≤ first)
    (later : cursor ≤ h) : s.isBoundary h = false := by
  refine Bool.eq_false_iff.mpr fun ends => ?_
  have := least.2 ⟨(Ground.isBoundary_iff s h).mp ends, UInt64.le_iff_toNat_le.mp later⟩
  have := h.toNat_lt
  omega

end Schedule

/-! ## §2. The summary -/

namespace Operator.Status

variable {s : Schedule} {cursor : UInt64}

theorem mod_eq_zero_iff : cursor % s.epochLength = 0 ↔ s.epochLength.toNat ∣ cursor.toNat := by
  rw [← Ground.isBoundary_iff, Schedule.isBoundary, decide_eq_true_iff]

/-- A remainder needs a length of at least two, which halves the cursor at least. -/
theorem epoch_small (inside : cursor % s.epochLength ≠ 0) :
    (cursor / s.epochLength).toNat + 1 < 2 ^ 64 := by
  have pos := s.length_pos
  have other : s.epochLength.toNat ≠ 1 := fun one =>
    inside (mod_eq_zero_iff.mpr (one ▸ Nat.one_dvd _))
  have half : cursor.toNat / s.epochLength.toNat ≤ cursor.toNat / 2 :=
    Nat.div_le_div_left (by omega) (by decide)
  have := cursor.toNat_lt
  rw [UInt64.toNat_div]
  omega

theorem toNat_boundaryFrom {first : Nat}
    (least : IsLeast (s.boundariesFrom cursor.toNat) first) :
    (boundaryFrom cursor s.epochLength).toNat = min (2 ^ 64 - 1) first := by
  unfold boundaryFrom
  split
  · next ends =>
    rw [least.unique (Schedule.isLeast_of_dvd (mod_eq_zero_iff.mp ends))]
    exact (Nat.min_eq_right (Nat.le_of_lt_succ cursor.toNat_lt)).symm
  · next inside =>
    rw [least.unique (Schedule.isLeast_of_not_dvd (mt mod_eq_zero_iff.mpr inside)),
      Saturating.toNat_mul, Words.toNat_succ (Nat.lt_sub_of_add_lt (epoch_small inside)),
      UInt64.toNat_div]
    exact Nat.min_comm _ _

section Summary

variable (s : Schedule) (cursor : UInt64) (size active : Nat)

/-- The length of a schedule is not below `1`, the least one that the summary takes. -/
theorem max_length : max s.epochLength 1 = s.epochLength := by
  rw [← UInt64.toNat_inj, Words.toNat_max]
  exact Nat.max_eq_left s.length_pos

theorem epoch_ofCheckpoint :
    (ofCheckpoint cursor size active s.epochLength).epoch = cursor / s.epochLength :=
  congrArg (cursor / ·) (max_length s)

theorem nextBoundary_ofCheckpoint :
    (ofCheckpoint cursor size active s.epochLength).nextBoundary =
      boundaryFrom cursor s.epochLength := congrArg (boundaryFrom cursor) (max_length s)

/-- The `distance` of a boundary that is not below the cursor. -/
theorem toNat_distance {length : UInt64}
    (later : cursor ≤ (ofCheckpoint cursor size active length).nextBoundary) :
    (ofCheckpoint cursor size active length).distance.toNat =
      (ofCheckpoint cursor size active length).nextBoundary.toNat - cursor.toNat := by
  have least : min cursor (ofCheckpoint cursor size active length).nextBoundary = cursor :=
    if_pos later
  rw [← UInt64.toNat_sub_of_le _ _ later]
  exact congrArg (fun h => (_ - h : UInt64).toNat) least

end Summary

end Operator.Status

open Operator.Status in
/-- The summary of a cursor (`Status.ofCheckpoint`), for the epoch length of a schedule. The one
    sum that could wrap does not, and the epoch is the quotient. The next boundary is the first
    one at or behind the cursor (`IsLeast`), or the greatest word if that does not fit 64 bits;
    it is less than an epoch away. If it fits, a service that goes on from the cursor commits it
    first (`FirstAt`), and without a commit has not gone past it. -/
theorem status_agrees_with_schedule (schedule : Schedule) (cursor : UInt64) (size active : Nat) :
    let length := schedule.epochLength
    let status := Operator.Status.ofCheckpoint cursor size active length
    (cursor % length ≠ 0 → status.epoch.toNat + 1 < 2 ^ 64) ∧
    status.epoch.toNat = cursor.toNat / length.toNat ∧
    status.nextBoundary.toNat = cursor.toNat + status.distance.toNat ∧
    status.distance < length ∧
    ∃ first, IsLeast {h | length.toNat ∣ h ∧ cursor.toNat ≤ h} first ∧
      status.nextBoundary.toNat = min (2 ^ 64 - 1) first ∧
      (2 ^ 64 ≤ first → ∀ h, cursor ≤ h → schedule.isBoundary h = false) ∧
      (first < 2 ^ 64 →
        IsLeast {h | cursor ≤ h ∧ schedule.isBoundary h = true} status.nextBoundary ∧
        ∀ (l : Launch) (n : Nat) (t : List Exchange) (r : Follower.Run), l.schedule = schedule →
          l.settings.start ≤ cursor →
          Dialogue.Path (l.service n).run (⟨.checkpoint .readCursor, .ok cursor⟩ :: t)
            (.done (.ok r)) →
          r.FirstAt status.nextBoundary.toNat) := by
  intro length status
  obtain ⟨first, least⟩ := schedule.exists_isLeast cursor.toNat
  have near : first < cursor.toNat + length.toNat := Schedule.lt_of_isLeast least
  have epoch : status.epoch = cursor / length := epoch_ofCheckpoint schedule cursor size active
  have next : status.nextBoundary.toNat = min (2 ^ 64 - 1) first := by
    rw [← toNat_boundaryFrom least]
    exact congrArg UInt64.toNat (nextBoundary_ofCheckpoint schedule cursor size active)
  have later : cursor.toNat ≤ status.nextBoundary.toNat := by
    have := least.1.2
    have := cursor.toNat_lt
    omega
  have away : status.distance.toNat = status.nextBoundary.toNat - cursor.toNat :=
    toNat_distance cursor size active (UInt64.le_iff_toNat_le.mpr later)
  refine ⟨?_, ?_, by omega, UInt64.lt_iff_toNat_lt.mpr (by omega), first, least, next, ?_, ?_⟩
  · rw [epoch]
    exact epoch_small
  · rw [epoch, UInt64.toNat_div]
  · exact fun large h => Schedule.not_isBoundary_of_large least large
  · intro small
    have same : status.nextBoundary.toNat = first := by omega
    rw [same]
    refine ⟨Schedule.isLeast_word (same ▸ least), fun l n t r scheduled resumed path => ?_⟩
    exact Launch.firstAt_of_service resumed path (scheduled ▸ least) small

namespace Session

/-- A start of the short session as a service. -/
def shortLaunch : Launch :=
  ⟨{ Settings.standard with confirmations := 0, epochLength := 1 }, shortScanner, shortSchedule, true⟩

theorem service_short : ∃ r, Dialogue.Path (shortLaunch.service 1).run
    (⟨.checkpoint .readCursor, .ok (0 : UInt64)⟩ :: shortRound) (.done (.ok r)) := by
  apply Exists.intro
  with_unfolding_all
    iterate 9 apply Dialogue.Path.step
    apply Dialogue.Path.here

/-- Epochs of a thousand blocks. -/
def thousands : Schedule := ⟨1000, .full, by decide⟩

end Session

open Session in
/-- The short service commits the boundary that the summary of its cursor shows. Epochs of a
    thousand blocks end at `2000` behind height `1001`, and none ends any more behind the
    greatest height but one, for which the greatest word is shown. -/
theorem summary_shows_first_commit :
    (∃ r, Dialogue.Path (shortLaunch.service 1).run
      (⟨.checkpoint .readCursor, .ok (0 : UInt64)⟩ :: shortRound) (.done (.ok r)) ∧
      r.FirstAt (Operator.Status.ofCheckpoint 0 0 0 1).nextBoundary.toNat) ∧
    IsLeast {h | 1001 ≤ h ∧ thousands.isBoundary h = true} 2000 ∧
    (Operator.Status.ofCheckpoint 18446744073709551614 0 0 1000).nextBoundary = Saturating.top ∧
    ∀ h, 18446744073709551614 ≤ h → thousands.isBoundary h = false := by
  refine ⟨?_, ?_, by decide, ?_⟩
  · obtain ⟨r, path⟩ := service_short
    obtain ⟨-, -, -, -, first, -, next, -, fits⟩ := status_agrees_with_schedule shortSchedule 0 0 0
    have shown : (Operator.Status.ofCheckpoint 0 0 0 1).nextBoundary.toNat = 0 := by decide
    have small : first < 2 ^ 64 := by
      have : (0 : Nat) = min (2 ^ 64 - 1) first := shown.symm.trans next
      omega
    exact ⟨r, path, (fits small).2 shortLaunch 1 shortRound r rfl (UInt64.le_refl 0) path⟩
  · obtain ⟨-, -, -, -, first, -, next, -, fits⟩ := status_agrees_with_schedule thousands 1001 0 0
    have shown : (Operator.Status.ofCheckpoint 1001 0 0 1000).nextBoundary = 2000 := by decide
    have small : first < 2 ^ 64 := by
      have : (2000 : Nat) = min (2 ^ 64 - 1) first := (congrArg UInt64.toNat shown).symm.trans next
      omega
    exact shown ▸ (fits small).1
  · obtain ⟨-, -, -, -, first, least, next, beyond, -⟩ :=
      status_agrees_with_schedule thousands 18446744073709551614 0 0
    have shown : (Operator.Status.ofCheckpoint 18446744073709551614 0 0 1000).nextBoundary.toNat =
      2 ^ 64 - 1 := by decide
    refine beyond ?_
    have top : 2 ^ 64 - 1 = min (2 ^ 64 - 1) first := shown.symm.trans next
    have ends : 1000 ∣ first := least.1.1
    omega

end StakeRelay
