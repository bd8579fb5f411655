/-
  StakeRelay.Proofs.Follower.Progress — the cursor follows the progress of a run.

  The checkpoint in memory keeps the cursor and the log of all its accepted writes. Both
  can be told from the height that a run has reached: the cursor lies behind the last
  boundary that was passed, and the log has one snapshot and one cursor for each of them.
  A boundary whose cursor is refused leaves its snapshot alone at the end of the log, and
  that is also the end of the run.

  Main statements:
    * `Follower.TurnPath.stored` — what a round makes the checkpoint take;
    * `Follower.Rounds.progress` — the log and the cursor after any number of rounds;
    * `cursor_follows_progress` — the same of a run.
-/

import Mathlib.Data.Nat.Find
import Mathlib.Data.Set.Basic
import Mathlib.Order.Bounds.Defs
import StakeRelay.Proofs.Checkpoint.Keeping
import StakeRelay.Proofs.Deposit.Epochs
import StakeRelay.Proofs.Follower.Counts
import StakeRelay.Proofs.Follower.Session

namespace StakeRelay

open Dialogue

/-! ## §1. What the checkpoint takes in a round -/

/-- No cursor is offered to the checkpoint, and it takes no snapshot. -/
structure Exchange.Spares (x : Exchange) : Prop where
  noCursor : x.request.newCursor? = none
  noSnapshot : x.takenSnapshot? = none

/-- A `Plain` exchange offers the checkpoint nothing that it takes. -/
theorem Exchange.Plain.spares {x : Exchange} (plain : x.Plain) : x.Spares := by
  cases plain with
  | entry asks =>
    obtain ⟨request, reply⟩ := x
    cases asks <;> exact ⟨rfl, rfl⟩
  | _ => exact ⟨rfl, rfl⟩

/-- What a boundary leaves in the checkpoint. -/
inductive Stored (h : UInt64) : List Exchange → Option Failure → Prop
  /-- Nothing. -/
  | nothing {t : List Exchange} {failure : Failure} (spares : ∀ x ∈ t, x.Spares) :
      Stored h t (some failure)
  /-- The snapshot without the cursor. -/
  | half {v : List Exchange} {top : List StakerRecord} {failure : Failure}
      (spares : ∀ x ∈ v, x.Spares) (ranked : Walk.Ranked top) :
      Stored h (v ++ [⟨.checkpoint (.writeSnapshot top), .ok ()⟩,
        ⟨.checkpoint (.writeCursor (Saturating.add h 1)), .error failure⟩]) (some failure)
  /-- Both. -/
  | whole {v : List Exchange} {top : List StakerRecord} (spares : ∀ x ∈ v, x.Spares)
      (ranked : Walk.Ranked top) :
      Stored h (v ++ [⟨.checkpoint (.writeSnapshot top), .ok ()⟩,
        ⟨.checkpoint (.writeCursor (Saturating.add h 1)), .ok ()⟩]) none

section Work

variable {s : Schedule} {h : UInt64} {e : OpenEpoch} {t u : List Exchange}

theorem spares_of_plain (plain : ∀ x ∈ t, x.Plain) : ∀ x ∈ t, x.Spares :=
  fun x member => (plain x member).spares

/-- What a boundary has `Stored` does not depend on exchanges behind it that store nothing. -/
theorem Stored.behind {failure : Option Failure} (stored : Stored h u failure)
    (spares : ∀ x ∈ t, x.Spares) : Stored h (t ++ u) failure := by
  cases stored with
  | nothing later => exact .nothing (List.forall_mem_append.mpr ⟨spares, later⟩)
  | half later ranked =>
    rw [← List.append_assoc]
    exact .half (List.forall_mem_append.mpr ⟨spares, later⟩) ranked
  | whole later ranked =>
    rw [← List.append_assoc]
    exact .whole (List.forall_mem_append.mpr ⟨spares, later⟩) ranked

/-- A single exchange that leaves nothing, with a failure. -/
theorem Stored.single {x : Exchange} {failure : Failure} (spares : x.Spares) :
    Stored h [x] (some failure) := .nothing (List.forall_mem_singleton.mpr spares)

/-- The registry half of a boundary at `h` leaves what `Stored h` says. -/
theorem Schedule.CommitPath.stored {outcome : Except Failure (Nat × Nat)}
    (path : s.CommitPath h t outcome) : Stored h t (failureOf outcome) := by
  cases path with
  | unsized failure => exact .single ⟨rfl, rfl⟩
  | unread reads failure => exact Stored.behind (.single ⟨rfl, rfl⟩) (spares_of_plain reads.plain)
  | refused reads some failure =>
    exact Stored.behind (.behind (t := [_]) (.single ⟨rfl, rfl⟩)
      (List.forall_mem_singleton.mpr ⟨rfl, rfl⟩)) (spares_of_plain reads.plain)
  | unsaved tells failure => exact Stored.behind (.single ⟨rfl, rfl⟩) (spares_of_plain tells.plain)
  | unmarked tells failure => exact .half (spares_of_plain tells.plain) tells.ranked
  | committed tells => exact .whole (spares_of_plain tells.plain) tells.ranked

/-- So do both halves (`SettlePath`). -/
theorem Schedule.SettlePath.stored {done : Except Failure BoundaryReport × OpenEpoch}
    (path : s.SettlePath h e t done) : Stored h t (failureOf done.1) := by
  cases path with
  | unflushed flush =>
    cases flush with
    | refused => exact .single ⟨rfl, rfl⟩
  | uncommitted flush commit => exact commit.stored.behind (spares_of_plain flush.plain)
  | settled flush commit => exact commit.stored.behind (spares_of_plain flush.plain)

/-- Only at a boundary the checkpoint takes anything, and then what `Stored h` says. -/
theorem Follower.WorkPath.stored {scanner : Scanner}
    {done : Except Failure (Option BoundaryReport) × OpenEpoch}
    (path : WorkPath scanner s h e t done) :
    (∀ x ∈ t, x.Spares) ∧ (failureOf done.1 = none → s.isBoundary h = false) ∨
      s.isBoundary h = true ∧ Stored h t (failureOf done.1) := by
  cases path with
  | unscanned failure => exact .inl ⟨List.forall_mem_singleton.mpr ⟨rfl, rfl⟩, nofun⟩
  | broken broken => exact .inl ⟨List.forall_mem_singleton.mpr ⟨rfl, rfl⟩, nofun⟩
  | inside whole inside => exact .inl ⟨List.forall_mem_singleton.mpr ⟨rfl, rfl⟩, fun _ => inside⟩
  | @boundary logs events u done whole ends settle =>
    refine .inr ⟨ends, ?_⟩
    show Stored h ([_] ++ u) _
    rw [failureOf_map]
    exact settle.stored.behind (List.forall_mem_singleton.mpr ⟨rfl, rfl⟩)

end Work

/-! ## §2. The checkpoint in memory through a round -/

namespace VolatileCheckpoint

variable {c c' : VolatileCheckpoint}

/-- The checkpoint that has taken a snapshot. -/
def withSnapshot (c : VolatileCheckpoint) (top : List StakerRecord) : VolatileCheckpoint :=
  { c with snapshot := top, writes := c.writes ++ [.snapshot top.length] }

/-- The checkpoint that has taken a cursor. -/
def withCursor (c : VolatileCheckpoint) (h : UInt64) : VolatileCheckpoint :=
  { c with cursor := some h, writes := c.writes ++ [.cursor h] }

/-- An exchange that `Spares` the checkpoint in memory leaves it as it is. -/
theorem goes_spares {x : Exchange} (goes : Keeping.volatile.goes c x c') (spares : x.Spares) :
    c' = c := by
  obtain ⟨request, reply⟩ := x
  obtain ⟨noCursor, noSnapshot⟩ := spares
  cases request with
  | checkpoint q =>
    rcases goes with answered | ⟨-, same⟩
    · cases q with
      | readCursor => exact (Prod.mk.inj answered).2
      | readSnapshot => exact (Prod.mk.inj answered).2
      | writeCursor h => cases noCursor
      | writeSnapshot top =>
        rw [answer_writeSnapshot] at answered
        split at answered
        · exact (Prod.mk.inj answered).2
        · obtain ⟨rfl, -⟩ := Prod.mk.inj answered
          cases noSnapshot
    · exact same
  | _ => exact goes

/-- So do any number of them: where all exchanges spare the checkpoint (`Spares`), it stays. -/
theorem through_spares {t : List Exchange} (through : Keeping.volatile.goes.Through c t c')
    (spares : ∀ x ∈ t, x.Spares) : c' = c := by
  induction through with
  | here c => rfl
  | step first _ ih =>
    rw [ih fun x member => spares x (List.mem_cons_of_mem _ member)]
    exact goes_spares first (spares _ List.mem_cons_self)

/-- A snapshot that is accepted is taken: `c.withSnapshot top`. -/
theorem goes_snapshot {top : List StakerRecord}
    (goes : Keeping.volatile.goes c ⟨.checkpoint (.writeSnapshot top), .ok ()⟩ c') :
    c' = c.withSnapshot top := by
  rcases goes with answered | ⟨⟨fault, refused⟩, -⟩
  · rw [answer_writeSnapshot] at answered
    split at answered <;> cases answered
    rfl
  · cases refused

/-- So is a cursor: `c.withCursor h`. -/
theorem goes_cursor {h : UInt64}
    (goes : Keeping.volatile.goes c ⟨.checkpoint (.writeCursor h), .ok ()⟩ c') :
    c' = c.withCursor h := by
  rcases goes with answered | ⟨⟨fault, refused⟩, -⟩
  · rw [answer_writeCursor] at answered
    split at answered <;> cases answered
    rfl
  · cases refused

/-- A cursor that is refused leaves the checkpoint as it is: `c' = c`. -/
theorem goes_refusedCursor {h : UInt64} {failure : Failure}
    (goes : Keeping.volatile.goes c ⟨.checkpoint (.writeCursor h), .error failure⟩ c') :
    c' = c := by
  rcases goes with answered | ⟨-, same⟩
  · rw [answer_writeCursor] at answered
    split at answered <;> cases answered
    rfl
  · exact same

/-- A snapshot that is taken, and behind it the cursor, which `reply` accepts or refuses. -/
theorem through_writes {top : List StakerRecord} {h : UInt64} {reply : Except Failure Unit}
    (through : Keeping.volatile.goes.Through c [⟨.checkpoint (.writeSnapshot top), .ok ()⟩,
      ⟨.checkpoint (.writeCursor h), reply⟩] c') :
    c' = if reply.isOk then (c.withSnapshot top).withCursor h else c.withSnapshot top := by
  cases through with
  | step saved rest =>
    cases rest with
    | step marked rest =>
      cases rest
      obtain rfl := goes_snapshot saved
      cases reply with
      | ok _ => exact goes_cursor marked
      | error failure => exact goes_refusedCursor marked

end VolatileCheckpoint

namespace Follower

/-- What a round does to the checkpoint in memory, and where it leads. -/
inductive Keeps (f : Follower) (c : VolatileCheckpoint) :
    List Exchange → Turn → VolatileCheckpoint → Prop
  /-- Nothing changes, and no boundary is passed. -/
  | same {t : List Exchange} {turn : Turn} (spares : ∀ x ∈ t, x.Spares)
      (place : turn.follower.current = f.current ∨ turn.follower.current = f.current + 1 ∧
        f.schedule.isBoundary f.current = false) : Keeps f c t turn c
  /-- The snapshot of a boundary is taken and its cursor is not, with which the run ends. -/
  | half {v : List Exchange} {top : List StakerRecord} {turn : Turn} {failure : Failure}
      (spares : ∀ x ∈ v, x.Spares) (ranked : Walk.Ranked top)
      (place : turn.follower.current = f.current)
      (ended : turn.outcome = some (.error failure)) :
      Keeps f c (v ++ [⟨.checkpoint (.writeSnapshot top), .ok ()⟩,
        ⟨.checkpoint (.writeCursor (Saturating.add f.current 1)), .error failure⟩]) turn
        (c.withSnapshot top)
  /-- Both are taken, and the boundary is passed. -/
  | whole {v : List Exchange} {top : List StakerRecord} {turn : Turn}
      (spares : ∀ x ∈ v, x.Spares) (ranked : Walk.Ranked top)
      (ends : f.schedule.isBoundary f.current = true)
      (place : turn.follower.current = f.current + 1) :
      Keeps f c (v ++ [⟨.checkpoint (.writeSnapshot top), .ok ()⟩,
        ⟨.checkpoint (.writeCursor (Saturating.add f.current 1)), .ok ()⟩]) turn
        ((c.withSnapshot top).withCursor (Saturating.add f.current 1))

section Rounds

variable {f : Follower} {t : List Exchange} {c c' : VolatileCheckpoint} {turn : Turn}

/-- Where a round fails at `f.current` the checkpoint has taken nothing, or the snapshot without
    the cursor. -/
theorem FailPath.stored {failure : Failure} {e : OpenEpoch} (fails : FailPath f t failure e) :
    Stored f.current t (some failure) := by
  cases fails with
  | unheard failure =>
    exact Stored.behind (t := [_]) (.single ⟨rfl, rfl⟩)
      (List.forall_mem_singleton.mpr ⟨rfl, rfl⟩)
  | unworked confirmed work =>
    rcases work.stored with ⟨spares, -⟩ | ⟨-, stored⟩
    · exact Stored.behind (.nothing spares) (spares_of_plain (plain_hears _))
    · exact stored.behind (spares_of_plain (plain_hears _))

/-- A round that stores nothing (`Spares`) keeps the checkpoint, and stays at its height or
    passes one that is no boundary. -/
theorem Keeps.of_spares (through : Keeping.volatile.goes.Through c t c')
    (spares : ∀ x ∈ t, x.Spares)
    (place : turn.follower.current = f.current ∨ turn.follower.current = f.current + 1 ∧
      f.schedule.isBoundary f.current = false) : Keeps f c t turn c' := by
  obtain rfl := VolatileCheckpoint.through_spares through spares
  exact .same spares place

/-- A round with which the run ends stays at its height, `f.current`. -/
theorem Keeps.of_failure {failure : Failure} (stored : Stored f.current t (some failure))
    (through : Keeping.volatile.goes.Through c t c') (place : turn.follower.current = f.current)
    (ended : turn.outcome = some (.error failure)) : Keeps f c t turn c' := by
  cases stored with
  | nothing spares => exact .of_spares through spares (.inl place)
  | half spares ranked =>
    obtain ⟨c₁, before, writes⟩ := through.split
    obtain rfl := VolatileCheckpoint.through_spares before spares
    obtain rfl := VolatileCheckpoint.through_writes writes
    exact .half spares ranked place ended

/-- A round that passes a boundary leaves both writes (`Stored`). -/
theorem Keeps.of_whole (stored : Stored f.current t none)
    (through : Keeping.volatile.goes.Through c t c')
    (ends : f.schedule.isBoundary f.current = true)
    (place : turn.follower.current = f.current + 1) : Keeps f c t turn c' := by
  cases stored with
  | whole spares ranked =>
    obtain ⟨c₁, before, writes⟩ := through.split
    obtain rfl := VolatileCheckpoint.through_spares before spares
    obtain rfl := VolatileCheckpoint.through_writes writes
    exact .whole spares ranked ends place

/-- Every round keeps the checkpoint in one of these ways (`Keeps`). -/
theorem TurnPath.keeps (path : TurnPath f t turn)
    (through : Keeping.volatile.goes.Through c t c') : Keeps f c t turn c' := by
  cases path with
  | asked => exact .of_spares through (List.forall_mem_singleton.mpr ⟨rfl, rfl⟩) (.inl rfl)
  | exhausted none =>
    exact .of_spares through (List.forall_mem_singleton.mpr ⟨rfl, rfl⟩) (.inl rfl)
  | early left early =>
    exact .of_spares through (List.forall_mem_append.mpr ⟨spares_of_plain (plain_hears _),
      List.forall_mem_singleton.mpr ⟨rfl, rfl⟩⟩) (.inl rfl)
  | @passing t failure e left fails passing =>
    have paused := spares_of_plain (plain_pause f)
    cases fails.stored with
    | nothing spares =>
      exact .of_spares through (List.forall_mem_append.mpr ⟨spares, paused⟩) (.inl rfl)
    | half spares ranked =>
      -- the checkpoint never fails in a way that may pass
      have fatal := Keeping.volatile.fatal_through through
        (.writeCursor (Saturating.add f.current 1)) failure (by simp)
      exact Failure.fatal_elim fatal passing
  | fatal left fails fatal => exact .of_failure fails.stored through rfl rfl
  | passed left confirmed work =>
    rcases work.stored with ⟨spares, inside⟩ | ⟨ends, stored⟩
    · exact .of_spares through
        (List.forall_mem_append.mpr ⟨spares_of_plain (plain_hears _), spares⟩)
        (.inr ⟨rfl, inside rfl⟩)
    · exact .of_whole (stored.behind (spares_of_plain (plain_hears _))) through ends rfl

end Rounds

end Follower

/-! ## §3. Boundaries from a height on -/

/-- The boundaries from a height on, as natural numbers. -/
def Schedule.boundariesFrom (s : Schedule) (start : Nat) : Set Nat :=
  {b | s.epochLength.toNat ∣ b ∧ start ≤ b}

theorem Schedule.length_pos (s : Schedule) : 0 < s.epochLength.toNat :=
  UInt64.lt_iff_toNat_lt.mp s.epochLength_pos

section Boundaries

variable {s : Schedule} {start first height n : Nat}

/-- Just the first `n` boundaries lie below the height, if `first` is the first one. -/
def Schedule.Ranks (s : Schedule) (first height n : Nat) : Prop :=
  ∀ i, i < n ↔ first + i * s.epochLength.toNat < height

/-- Every boundary from `start` on is `first + i * s.epochLength` for some `i`. -/
theorem Schedule.exists_index {b : Nat} (least : IsLeast (s.boundariesFrom start) first)
    (from_start : b ∈ s.boundariesFrom start) : ∃ i, b = first + i * s.epochLength.toNat := by
  obtain ⟨i, apart⟩ := (Nat.dvd_sub_iff_left (least.2 from_start) least.1.1).mpr from_start.1
  refine ⟨i, ?_⟩
  have := least.2 from_start
  rw [Nat.mul_comm]
  omega

/-- And every such number is one of `boundariesFrom start`. -/
theorem Schedule.mem_boundariesFrom (least : IsLeast (s.boundariesFrom start) first) (i : Nat) :
    first + i * s.epochLength.toNat ∈ s.boundariesFrom start :=
  ⟨Nat.dvd_add least.1.1 (Nat.dvd_mul_left _ i), Nat.le_trans least.1.2 (Nat.le_add_right _ _)⟩

/-- At the start no boundary is passed: the rank is `0`. -/
theorem Schedule.ranks_zero (least : IsLeast (s.boundariesFrom start) first) :
    s.Ranks first start 0 := by
  intro i
  have := least.1.2
  omega

/-- Inside an epoch the number of passed boundaries stays `n` at the next height. -/
theorem Schedule.Ranks.inside (ranks : s.Ranks first height n)
    (least : IsLeast (s.boundariesFrom start) first) (inside : ¬ s.epochLength.toNat ∣ height) :
    s.Ranks first (height + 1) n := by
  intro i
  have other : first + i * s.epochLength.toNat ≠ height := fun same =>
    inside (same ▸ (mem_boundariesFrom least i).1)
  rw [ranks i]
  omega

/-- Boundaries are ordered as their indices are. -/
theorem Schedule.index_le_iff (s : Schedule) (first i j : Nat) :
    first + i * s.epochLength.toNat ≤ first + j * s.epochLength.toNat ↔ i ≤ j := by
  have pos := s.length_pos
  rw [Nat.add_le_add_iff_left, Nat.mul_le_mul_right_iff pos]

/-- A boundary behind `n` passed ones is `first + n * s.epochLength`. -/
theorem Schedule.Ranks.boundary_eq (ranks : s.Ranks first height n)
    (least : IsLeast (s.boundariesFrom start) first) (ends : height ∈ s.boundariesFrom start) :
    height = first + n * s.epochLength.toNat := by
  obtain ⟨j, rfl⟩ := exists_index least ends
  have above : n ≤ j := Nat.le_of_not_lt fun less => Nat.lt_irrefl _ ((ranks j).mp less)
  have below : j ≤ n := (s.index_le_iff first j n).mp
    (Nat.le_of_not_lt fun less => Nat.lt_irrefl _ ((ranks n).mpr less))
  rw [Nat.le_antisymm below above]

/-- Behind that boundary `n + 1` are passed. -/
theorem Schedule.Ranks.behind (s : Schedule) (first n : Nat) :
    s.Ranks first (first + n * s.epochLength.toNat + 1) (n + 1) := by
  intro i
  rw [Nat.lt_succ_iff, Nat.lt_succ_iff, s.index_le_iff]

/-- With `n + 1` boundaries passed, `first + n * s.epochLength` is the greatest one below the
    height. -/
theorem Schedule.Ranks.isGreatest (ranks : s.Ranks first height (n + 1))
    (least : IsLeast (s.boundariesFrom start) first) :
    IsGreatest {b ∈ s.boundariesFrom start | b < height} (first + n * s.epochLength.toNat) := by
  refine ⟨⟨mem_boundariesFrom least n, (ranks n).mp (Nat.lt_succ_self n)⟩, ?_⟩
  intro b below
  obtain ⟨j, rfl⟩ := exists_index least below.1
  exact (s.index_le_iff first j n).mpr (Nat.lt_succ_iff.mp ((ranks j).mpr below.2))

/-- With none passed there is none below the height. -/
theorem Schedule.Ranks.eq_empty (ranks : s.Ranks first height 0)
    (least : IsLeast (s.boundariesFrom start) first) :
    {b ∈ s.boundariesFrom start | b < height} = ∅ := by
  refine Set.eq_empty_of_forall_notMem fun b below => ?_
  obtain ⟨j, rfl⟩ := exists_index least below.1
  exact Nat.not_lt_zero j ((ranks j).mpr below.2)

/-- Every `start` has a first boundary from it on. -/
theorem Schedule.exists_isLeast (s : Schedule) (start : Nat) :
    ∃ first, IsLeast (s.boundariesFrom start) first := by
  have pos := s.length_pos
  have some : ∃ b, b ∈ s.boundariesFrom start :=
    ⟨start * s.epochLength.toNat, Nat.dvd_mul_left _ _, Nat.le_mul_of_pos_right start pos⟩
  classical
  exact ⟨Nat.find some, Nat.find_spec some, fun b member => Nat.find_min' some member⟩

end Boundaries

/-! ## §4. The log and the cursor -/

/-- The log of boundaries in a row, the first of which is given, whose tops have the given
    sizes. -/
def commitLog (length : Nat) : Nat → List Nat → List CheckpointWrite
  | _, [] => []
  | b, size :: sizes =>
    .snapshot size :: .cursor (.ofNat (b + 1)) :: commitLog length (b + length) sizes

/-- One more boundary adds its `.snapshot` and its `.cursor` to the end of the log. -/
theorem commitLog_concat (length b : Nat) (sizes : List Nat) (size : Nat) :
    commitLog length b (sizes ++ [size]) = commitLog length b sizes ++
      [.snapshot size, .cursor (.ofNat (b + sizes.length * length + 1))] := by
  induction sizes generalizing b with
  | nil => simp [commitLog]
  | cons first sizes ih =>
    have place : b + length + sizes.length * length = b + (sizes.length + 1) * length := by
      rw [Nat.succ_mul]
      omega
    rw [List.cons_append, commitLog, commitLog, ih, place]
    rfl

/-- The cursor behind so many boundaries from the given one on, if it was `old` before. -/
def cursorBehind (old : Option UInt64) (length first : Nat) : Nat → Option UInt64
  | 0 => old
  | n + 1 => some (.ofNat (first + n * length + 1))

/-- What follows the log of the boundaries that were passed. -/
inductive Lone (t : List Exchange) (outcome : Option (Except Failure Unit)) :
    List CheckpointWrite → Prop
  /-- Nothing, if no cursor was refused. -/
  | nothing (unrefused : ∀ cursor failure,
      ⟨.checkpoint (.writeCursor cursor), .error failure⟩ ∉ t) : Lone t outcome []
  /-- A snapshot, if the run ended when the cursor behind it was refused. -/
  | snapshot {front : List Exchange} {top : List StakerRecord} {cursor : UInt64}
      {failure : Failure} (small : top.length ≤ Ranking.topSize)
      (last : t = front ++ [⟨.checkpoint (.writeSnapshot top), .ok ()⟩,
        ⟨.checkpoint (.writeCursor cursor), .error failure⟩])
      (ended : outcome = some (.error failure)) : Lone t outcome [.snapshot top.length]

/-- What the checkpoint in memory shows of a run that has reached a height: the log of the
    boundaries that were passed, then `lone`, and the cursor behind the last of them. -/
structure Progress (s : Schedule) (first : Nat) (c₀ c : VolatileCheckpoint) (height : Nat)
    (sizes : List Nat) (lone : List CheckpointWrite) : Prop where
  ranks : s.Ranks first height sizes.length
  small : ∀ size ∈ sizes, size ≤ Ranking.topSize
  writes : c.writes = c₀.writes ++ commitLog s.epochLength.toNat first sizes ++ lone
  cursor : c.cursor = cursorBehind c₀.cursor s.epochLength.toNat first sizes.length

/-- Where nothing is offered (`Spares`) no cursor was refused. -/
theorem unrefused_of_spares {t : List Exchange} (spares : ∀ x ∈ t, x.Spares) (cursor : UInt64)
    (failure : Failure) : ⟨.checkpoint (.writeCursor cursor), .error failure⟩ ∉ t := by
  intro member
  cases (spares _ member).noCursor

section Steps

variable {s : Schedule} {start first : Nat} {c₀ c : VolatileCheckpoint} {height : UInt64}
  {sizes : List Nat}

/-- A boundary that is passed adds `.snapshot top.length` and the cursor behind the boundary to
    the log. -/
theorem Progress.whole {top : List StakerRecord}
    (progress : Progress s first c₀ c height.toNat sizes []) (ranked : Walk.Ranked top)
    (least : IsLeast (s.boundariesFrom start) first) (small : height.toNat < 2 ^ 64 - 1)
    (ends : height.toNat ∈ s.boundariesFrom start) :
    Progress s first c₀ ((c.withSnapshot top).withCursor (Saturating.add height 1))
      (height.toNat + 1) (sizes ++ [top.length]) [] := by
  have place := progress.ranks.boundary_eq least ends
  have cursor : Saturating.add height 1 =
      .ofNat (first + sizes.length * s.epochLength.toNat + 1) := by
    rw [Words.add_one_eq small, ← place, ← Words.toNat_succ small, UInt64.ofNat_toNat]
  refine ⟨?_, ?_, ?_, ?_⟩
  · rw [place, List.length_append]
    exact .behind s first sizes.length
  · exact List.forall_mem_append.mpr
      ⟨progress.small, List.forall_mem_singleton.mpr ranked.length_le⟩
  · show c.writes ++ [.snapshot top.length] ++ [.cursor (Saturating.add height 1)] = _
    rw [progress.writes, commitLog_concat, cursor]
    simp
  · rw [List.length_append]
    exact congrArg some cursor

/-- The cursor is one more than the greatest boundary below `height`, and is `c₀.cursor` if
    there is none. -/
theorem Progress.cursor_cases {height : Nat} {lone : List CheckpointWrite}
    (progress : Progress s first c₀ c height sizes lone)
    (least : IsLeast (s.boundariesFrom start) first) (small : height < 2 ^ 64) :
    ({b ∈ s.boundariesFrom start | b < height} = ∅ ∧ c.cursor = c₀.cursor) ∨
      ∃ b, IsGreatest {b ∈ s.boundariesFrom start | b < height} b ∧
        c.cursor.map UInt64.toNat = some (b + 1) := by
  have ranks := progress.ranks
  rw [progress.cursor]
  cases counted : sizes.length with
  | zero =>
    rw [counted] at ranks
    exact .inl ⟨ranks.eq_empty least, rfl⟩
  | succ k =>
    rw [counted] at ranks
    have greatest := ranks.isGreatest least
    have below : first + k * s.epochLength.toNat < height := greatest.1.2
    refine .inr ⟨_, greatest, ?_⟩
    rw [cursorBehind, Option.map_some, UInt64.toNat_ofNat', Nat.mod_eq_of_lt (by omega)]

end Steps

namespace Follower

/-- Any number of rounds that lead to `f` leave what `Progress` says at `f.current`: the log and
    the cursor of the boundaries between `f₀.current` and there, and at the end of the log
    perhaps one `Lone` snapshot. -/
theorem Rounds.progress {f₀ f : Follower} {t : List Exchange} {first : Nat}
    {o : Option (Except Failure Unit)} {c₀ c : VolatileCheckpoint} (rounds : Rounds f₀ t f o)
    (through : Keeping.volatile.goes.Through c₀ t c)
    (fits : f₀.current.toNat + completions f₀.schedule t < 2 ^ 64)
    (least : IsLeast (f₀.schedule.boundariesFrom f₀.current.toNat) first) :
    ∃ sizes lone, Progress f₀.schedule first c₀ c f.current.toNat sizes lone ∧ Lone t o lone := by
  induction rounds generalizing c with
  | start =>
    cases through
    exact ⟨[], [], ⟨Schedule.ranks_zero least, List.forall_mem_nil _, by simp [commitLog], rfl⟩,
      .nothing fun _ _ => List.not_mem_nil⟩
  | @round t u f turn before run path ih =>
    obtain ⟨c₁, through₁, through₂⟩ := through.split
    have fits₁ : f₀.current.toNat + completions f₀.schedule t < 2 ^ 64 := by
      rw [completions_append] at fits
      omega
    obtain ⟨sizes, lone, progress, nothing⟩ := ih through₁ fits₁
    -- the run went on behind the rounds before, so no snapshot was left alone there
    cases nothing with
    | snapshot _ _ ended => cases ended
    | nothing unrefused =>
    have schedule := before.course.2.2
    have from_start := before.place fits₁
    cases path.keeps through₂ with
    | same spares place =>
      have unrefused' : Lone (t ++ u) turn.outcome [] := .nothing fun cursor failure member =>
        (List.mem_append.mp member).elim (unrefused cursor failure)
          (unrefused_of_spares spares cursor failure)
      rcases place with place | ⟨place, inside⟩
      · exact ⟨sizes, [], place ▸ progress, unrefused'⟩
      · have next := (before.succ (before.round run path) fits place).2
        rw [schedule] at inside
        refine ⟨sizes, [], ⟨?_, progress.small, progress.writes, progress.cursor⟩, unrefused'⟩
        rw [next]
        refine progress.ranks.inside least fun ends => ?_
        rw [(Ground.isBoundary_iff _ _).mpr ends] at inside
        cases inside
    | @half v top turn failure spares ranked place ended =>
      refine ⟨sizes, [.snapshot top.length], ?_,
        .snapshot ranked.length_le (List.append_assoc t v _).symm ended⟩
      rw [place]
      refine ⟨progress.ranks, progress.small, ?_, progress.cursor⟩
      show c₁.writes ++ _ = _
      rw [progress.writes, List.append_nil]
    | @whole v top turn spares ranked ends place =>
      obtain ⟨small, next⟩ := before.succ (before.round run path) fits place
      refine ⟨sizes ++ [top.length], [], ?_, .nothing fun cursor failure member => ?_⟩
      · rw [next]
        refine progress.whole ranked least small ⟨?_, ?_⟩
        · rw [← schedule]
          exact (Ground.isBoundary_iff _ _).mp ends
        · rw [from_start]
          exact Nat.le_add_right _ _
      · rcases List.mem_append.mp member with earlier | here
        · exact unrefused cursor failure earlier
        · rcases List.mem_append.mp here with early | late
          · exact unrefused_of_spares spares cursor failure early
          · simp at late

end Follower

/-! ## §5. Runs -/

/-- The height of a run tells what the checkpoint in memory holds, whatever fails and
    however often the run is stopped or goes on, as long as the heights do not run out: the block
    at `2 ^ 64 - 1` is not completed, so that `settings.start + completions schedule t` is still
    a word (`fits`). Here `r` is what at most `n` rounds come to: the run has ended, or stands at
    the top of the next round. With the boundaries that the run has passed,
      * the cursor is one more than the greatest of them, and what it was before the run if
        there are none;
      * so it does not exceed the height, unless it did before;
      * the log has grown by a snapshot of at most twenty records and a cursor for each of
        them, in their order, and by the snapshot alone where the last cursor was refused. -/
theorem cursor_follows_progress {settings : FollowerSettings} {scanner : Scanner}
    {schedule : Schedule} {n : Nat} {t : List Exchange} {r : Follower.Run}
    {c₀ c : VolatileCheckpoint}
    (path : Path (Follower.run n (.ofSettings settings scanner schedule)) t (.done r))
    (through : Keeping.volatile.goes.Through c₀ t c)
    (fits : settings.start.toNat + completions schedule t < 2 ^ 64) :
    let length := schedule.epochLength.toNat
    let start := settings.start.toNat
    let height := r.follower.current.toNat
    let passed : Set Nat := {b | length ∣ b ∧ start ≤ b ∧ b < height}
    (passed.Nonempty → ∃ b, IsGreatest passed b ∧ c.cursor.map UInt64.toNat = some (b + 1)) ∧
    (passed = ∅ → c.cursor = c₀.cursor) ∧
    ((c₀.cursor.getD 0).toNat ≤ start → (c.cursor.getD 0).toNat ≤ height) ∧
    ∃ first sizes lone, IsLeast {b | length ∣ b ∧ start ≤ b} first ∧
      (∀ i, i < sizes.length ↔ first + i * length < height) ∧ (∀ size ∈ sizes, size ≤ 20) ∧
      c.writes = c₀.writes ++ commitLog length first sizes ++ lone ∧ Lone t r.outcome lone := by
  intro length start height passed
  have rounds := Follower.rounds_of_path rfl path
  obtain ⟨first, least⟩ := schedule.exists_isLeast start
  obtain ⟨sizes, lone, progress, rest⟩ := rounds.progress through fits least
  have place : height = start + completions schedule t := rounds.place fits
  have same : passed = {b ∈ schedule.boundariesFrom start | b < height} :=
    Set.ext fun b => and_assoc.symm
  rw [same]
  have log : ∃ first sizes lone, IsLeast {b | length ∣ b ∧ start ≤ b} first ∧
      (∀ i, i < sizes.length ↔ first + i * length < height) ∧ (∀ size ∈ sizes, size ≤ 20) ∧
      c.writes = c₀.writes ++ commitLog length first sizes ++ lone ∧ Lone t r.outcome lone :=
    ⟨first, sizes, lone, least, progress.ranks, progress.small, progress.writes, rest⟩
  rcases progress.cursor_cases least r.follower.current.toNat_lt with
    ⟨none, unmarked⟩ | ⟨b, greatest, marked⟩
  · refine ⟨fun some => ?_, fun _ => unmarked, fun before => ?_, log⟩
    · exact absurd (none ▸ some) Set.not_nonempty_empty
    · rw [unmarked]
      omega
  · refine ⟨fun _ => ⟨b, greatest, marked⟩, fun none => ?_, fun _ => ?_, log⟩
    · exact absurd (none ▸ greatest.1) (Set.notMem_empty b)
    · obtain ⟨cursor, held, behind⟩ := Option.map_eq_some_iff.mp marked
      have below : b < height := greatest.1.2
      rw [held, Option.getD_some, behind]
      exact below

namespace Session

theorem run_short : ∃ reports, Path (Follower.run 1 shortStart) shortRound
    (.done ⟨shortEnd, none, reports⟩) := by
  apply Exists.intro
  with_unfolding_all
    iterate 8 apply Path.step
    apply Path.here

theorem through_short : Keeping.volatile.goes.Through .empty shortRound shortKept := by
  iterate 5 refine .step rfl ?_
  iterate 3 refine .step (.inl rfl) ?_
  exact .here _

end Session

open Session in
/-- Behind height `0`, where each block is an epoch, the cursor is one more than the greatest
    boundary below height `1`. -/
theorem cursor_behind_height_zero :
    ∃ b, IsGreatest {b | 1 ∣ b ∧ 0 ≤ b ∧ b < 1} b ∧
      shortKept.cursor.map UInt64.toNat = some (b + 1) := by
  obtain ⟨reports, path⟩ := run_short
  exact (cursor_follows_progress path through_short (by decide)).1
    ⟨0, ⟨0, rfl⟩, Nat.le_refl 0, Nat.zero_lt_one⟩

namespace Session

/-- The checkpoint in memory at the cursor seven. -/
def sevenKept : VolatileCheckpoint := ⟨some 7, [], [], false, false⟩

/-- The checkpoint in memory behind the greatest height. -/
def lastKept : VolatileCheckpoint :=
  ⟨some lastHeight, Ranking.top [], [.snapshot (Ranking.top []).length, .cursor lastHeight],
    false, false⟩

theorem run_last : ∃ r, Path (Follower.run 1 lastStart) (emptyRound lastHeight lastHeight) (.done r) ∧
    r.outcome = none ∧ r.follower.current = 0 := by
  apply Exists.intro
  refine ⟨?_, ?_⟩
  · with_unfolding_all
      iterate 7 apply Path.step
      apply Path.here
  · exact ⟨rfl, rfl⟩

theorem through_last :
    Keeping.volatile.goes.Through sevenKept (emptyRound lastHeight lastHeight) lastKept := by
  iterate 4 refine .step rfl ?_
  iterate 3 refine .step (.inl rfl) ?_
  exact .here _

end Session

open Session in
/-- Behind the greatest height the run stands at zero again. No boundary lies between its start
    and there, and yet the cursor was written, to `lastHeight` instead of one more. -/
theorem cursor_stays_at_last_height :
    ∃ r, Path (Follower.run 1 lastStart) (emptyRound lastHeight lastHeight) (.done r) ∧
      Keeping.volatile.goes.Through sevenKept (emptyRound lastHeight lastHeight) lastKept ∧
      {b | 1 ∣ b ∧ lastHeight.toNat ≤ b ∧ b < r.follower.current.toNat} = ∅ ∧
      lastKept.cursor = some lastHeight ∧ sevenKept.cursor = some 7 ∧
      lastKept.writes = [.snapshot 0, .cursor lastHeight] ∧
      ¬ ∃ cursor : UInt64, CheckpointWrite.cursor cursor ∈ lastKept.writes ∧
        cursor.toNat = lastHeight.toNat + 1 := by
  obtain ⟨r, path, -, place⟩ := run_last
  refine ⟨r, path, through_last, ?_, rfl, rfl,
    by simp [lastKept, Ranking.top, Ranking.best, Ranking.ranked], ?_⟩
  · rw [place]
    exact Set.eq_empty_iff_forall_notMem.mpr fun b passed => Nat.not_lt_zero b passed.2.2
  · rintro ⟨cursor, -, beyond⟩
    have small := cursor.toNat_lt
    have last : lastHeight.toNat = 2 ^ 64 - 1 := rfl
    omega

end StakeRelay
