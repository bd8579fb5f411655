/-
  StakeRelay.Proofs.Follower.Endings — how a boundary can end, and what each end leaves behind.

  A boundary asks the destination, the source and the checkpoint in turn, and at six places
  a failure ends it. What was done before the failure stays done: the deposits may be out of
  the open epoch although the registry could not be read, and the new top may be committed
  without the cursor. The next attempt, or a restart, goes on from just that. So each end is
  a case of its own here, and of each case it is said what was asked, what the boundary comes
  to, which updates the destination accepted, and what the checkpoint holds.

  Main statements:
    * `Schedule.SettlePath.endsIn` — a boundary ends in one of the cases;
    * `Schedule.EndsIn.unique` — and in no other;
    * `Schedule.EndsIn.held`, `Schedule.EndsIn.stored` — what it leaves in a checkpoint;
    * `every_boundary_ends_in_one_way` — all of it, whoever answers.
-/

import StakeRelay.Proofs.Follower.Arrival
import StakeRelay.Proofs.Follower.Commits
import StakeRelay.Proofs.Follower.Granted
import StakeRelay.Proofs.Follower.Progress
import StakeRelay.Proofs.Number.Words

namespace StakeRelay

open Dialogue

/-! ## §1. The ends of a boundary -/

/-- How a boundary ends: the place at which it fails, if it does, with the failure and with
    what was found out before. `last` is the committed top and `top` that of the registry. -/
inductive BoundaryEnd
  /-- The destination does not accept the deposits. -/
  | unflushed (failure : Failure)
  /-- The size of the registry is not told. -/
  | unsized (failure : Failure)
  /-- The committed top is not told. -/
  | unread (failure : Failure)
  /-- The destination does not accept the update of the registry. -/
  | refused (last top : List StakerRecord) (failure : Failure)
  /-- The checkpoint does not take the new top. -/
  | unsaved (last top : List StakerRecord) (failure : Failure)
  /-- It takes the new top and not the cursor. -/
  | unmarked (last top : List StakerRecord) (failure : Failure)
  /-- It takes both. -/
  | committed (last top : List StakerRecord)
  deriving Repr, DecidableEq

/-- What the update of the deposits carries. Without deposits there is none. -/
def OpenEpoch.due (e : OpenEpoch) : List (List StakerRecord) :=
  if e.records = [] then [] else [Ranking.top e.records]

/-- What the update of the registry carries. With nothing to tell there is none. -/
def Departure.due (last top : List StakerRecord) : List (List StakerRecord) :=
  if update last top = [] then [] else [update last top]

namespace Schedule

/-- The destination accepts the updates. -/
def accepting (payloads : List (List StakerRecord)) : List Exchange :=
  payloads.map fun payload => ⟨.submit ⟨updateCall, payload⟩, .ok ()⟩

/-- What is asked and answered at a boundary that ends so. -/
inductive EndsIn (s : Schedule) (height : UInt64) (e : OpenEpoch) :
    List Exchange → BoundaryEnd → Prop
  | unflushed (some : e.records ≠ []) (failure : Failure) :
      EndsIn s height e [⟨.submit ⟨updateCall, Ranking.top e.records⟩, .error failure⟩]
        (.unflushed failure)
  | unsized (failure : Failure) :
      EndsIn s height e (accepting e.due ++ [⟨.source .registrySize, .error failure⟩])
        (.unsized failure)
  | unread {top : List StakerRecord} {u : List Exchange} (reads : s.walk.Reads top u)
      (failure : Failure) :
      EndsIn s height e (accepting e.due ++ (u ++ [⟨.checkpoint .readSnapshot, .error failure⟩]))
        (.unread failure)
  | refused {last top : List StakerRecord} {u : List Exchange} (reads : s.walk.Reads top u)
      (some : Departure.update last top ≠ []) (failure : Failure) :
      EndsIn s height e (accepting e.due ++ (u ++ [⟨.checkpoint .readSnapshot, .ok last⟩,
        ⟨.submit ⟨updateCall, Departure.update last top⟩, .error failure⟩]))
        (.refused last top failure)
  | unsaved {last top : List StakerRecord} {u : List Exchange} (tells : s.Tells last top u)
      (failure : Failure) :
      EndsIn s height e
        (accepting e.due ++ (u ++ [⟨.checkpoint (.writeSnapshot top), .error failure⟩]))
        (.unsaved last top failure)
  | unmarked {last top : List StakerRecord} {u : List Exchange} (tells : s.Tells last top u)
      (failure : Failure) :
      EndsIn s height e (accepting e.due ++ (u ++ [⟨.checkpoint (.writeSnapshot top), .ok ()⟩,
        ⟨.checkpoint (.writeCursor (height + 1)), .error failure⟩])) (.unmarked last top failure)
  | committed {last top : List StakerRecord} {u : List Exchange} (tells : s.Tells last top u) :
      EndsIn s height e (accepting e.due ++ (u ++ [⟨.checkpoint (.writeSnapshot top), .ok ()⟩,
        ⟨.checkpoint (.writeCursor (height + 1)), .ok ()⟩])) (.committed last top)

end Schedule

/-! ## §2. What each end leaves behind -/

/-- What an update carries that is offered in an exchange. -/
def Exchange.offered? : Exchange → Option (List StakerRecord)
  | ⟨.submit update, _⟩ => some update.payload
  | _ => none

/-- What an update carries that is accepted in an exchange. -/
def Exchange.accepted? : Exchange → Option (List StakerRecord)
  | ⟨.submit update, .ok ()⟩ => some update.payload
  | _ => none

namespace BoundaryEnd

/-- The committed top, where it was read. -/
def last? : BoundaryEnd → Option (List StakerRecord)
  | .unflushed _ | .unsized _ | .unread _ => none
  | .refused last _ _ | .unsaved last _ _ | .unmarked last _ _ | .committed last _ => some last

/-- The top of the registry, where it was told. -/
def top? : BoundaryEnd → Option (List StakerRecord)
  | .unflushed _ | .unsized _ | .unread _ => none
  | .refused _ top _ | .unsaved _ top _ | .unmarked _ top _ | .committed _ top => some top

/-- What the boundary comes to. -/
def outcome (height : UInt64) (e : OpenEpoch) : BoundaryEnd → Except Failure BoundaryReport
  | .unflushed failure | .refused _ _ failure => .error (Schedule.asSubmission failure)
  | .unsized failure | .unread failure => .error failure
  | .unsaved _ _ failure | .unmarked _ _ failure => .error failure
  | .committed last top => .ok
      { height
        submitted := (Departure.update last top).length
        stopped := (Departure.departed last top).length
        flushed := (Ranking.top e.records).length }

/-- The open epoch afterwards. -/
def epoch (e : OpenEpoch) : BoundaryEnd → OpenEpoch
  | .unflushed _ => e
  | _ => ⟨[], e.mark⟩

/-- What the updates carry that were offered. -/
def offered (e : OpenEpoch) : BoundaryEnd → List (List StakerRecord)
  | .unflushed _ | .unsized _ | .unread _ => e.due
  | .refused last top _ | .unsaved last top _ | .unmarked last top _ | .committed last top =>
    e.due ++ Departure.due last top

/-- What the updates carry that were accepted. -/
def accepted (e : OpenEpoch) : BoundaryEnd → List (List StakerRecord)
  | .unflushed _ => []
  | .unsized _ | .unread _ | .refused _ _ _ => e.due
  | .unsaved last top _ | .unmarked last top _ | .committed last top =>
    e.due ++ Departure.due last top

/-- The snapshot that is held afterwards, by the one before. -/
def snapshot (held : Except Failure (List StakerRecord)) :
    BoundaryEnd → Except Failure (List StakerRecord)
  | .unmarked _ top _ | .committed _ top => .ok top
  | _ => held

/-- The cursor that is held afterwards, by the one before. -/
def cursor (height : UInt64) (held : Except Failure UInt64) : BoundaryEnd → Except Failure UInt64
  | .committed _ _ => .ok (height + 1)
  | _ => held

/-- The checkpoint in memory afterwards, with its log of writes. -/
def stored (height : UInt64) (c : VolatileCheckpoint) : BoundaryEnd → VolatileCheckpoint
  | .unmarked _ top _ => c.withSnapshot top
  | .committed _ top => (c.withSnapshot top).withCursor (height + 1)
  | _ => c

end BoundaryEnd

/-! ## §3. A boundary ends in one of the cases -/

namespace Schedule

variable {s : Schedule} {height : UInt64} {e : OpenEpoch} {t u : List Exchange}
  {last top : List StakerRecord}

/-- A flush that succeeds was accepted, or had nothing to offer (`e.due`). -/
theorem FlushPath.through {n : Nat} {e' : OpenEpoch} (path : FlushPath e t (.ok n, e')) :
    t = accepting e.due ∧ n = (Ranking.top e.records).length ∧ e' = ⟨[], e.mark⟩ := by
  cases path with
  | nothing none =>
    obtain ⟨records, mark⟩ := e
    subst none
    refine ⟨rfl, ?_, rfl⟩
    rw [Ranking.top, Ranking.length_best]
    rfl
  | flushed some =>
    rw [OpenEpoch.due, if_neg some]
    exact ⟨rfl, rfl, rfl⟩

/-- So behind it every end of the registry half is a `BoundaryEnd`. -/
theorem CommitPath.endsIn {outcome : Except Failure (Nat × Nat)}
    (path : s.CommitPath height u outcome) (small : height.toNat < 2 ^ 64 - 1) :
    ∃ ending : BoundaryEnd, s.EndsIn height e (accepting e.due ++ u) ending ∧
      ending.outcome height e = outcome.map (fun counts =>
        ⟨height, counts.1, counts.2, (Ranking.top e.records).length⟩) ∧
      ending.epoch e = ⟨[], e.mark⟩ := by
  have next : Saturating.add height 1 = height + 1 := Words.add_one_eq small
  cases path with
  | unsized failure => exact ⟨.unsized failure, .unsized failure, rfl, rfl⟩
  | unread reads failure => exact ⟨.unread failure, .unread reads failure, rfl, rfl⟩
  | refused reads some failure =>
    exact ⟨.refused _ _ failure, .refused reads some failure, rfl, rfl⟩
  | unsaved tells failure => exact ⟨.unsaved _ _ failure, .unsaved tells failure, rfl, rfl⟩
  | unmarked tells failure =>
    rw [next]
    exact ⟨.unmarked _ _ failure, .unmarked tells failure, rfl, rfl⟩
  | committed tells =>
    rw [next]
    exact ⟨.committed _ _, .committed tells, rfl, rfl⟩

/-- Every way of `s.settle height e` ends the boundary in some `BoundaryEnd`. -/
theorem SettlePath.endsIn {done : Except Failure BoundaryReport × OpenEpoch}
    (path : s.SettlePath height e t done) (small : height.toNat < 2 ^ 64 - 1) :
    ∃ ending : BoundaryEnd, s.EndsIn height e t ending ∧
      done = (ending.outcome height e, ending.epoch e) := by
  cases path with
  | unflushed flush =>
    cases flush with
    | refused some failure => exact ⟨.unflushed failure, .unflushed some failure, rfl⟩
  | uncommitted flush commit =>
    obtain ⟨rfl, -, rfl⟩ := flush.through
    obtain ⟨ending, ends, outcome, epoch⟩ := commit.endsIn (e := e) small
    exact ⟨ending, ends, by rw [outcome, epoch]; rfl⟩
  | settled flush commit =>
    obtain ⟨rfl, rfl, rfl⟩ := flush.through
    obtain ⟨ending, ends, outcome, epoch⟩ := commit.endsIn (e := e) small
    exact ⟨ending, ends, by rw [outcome, epoch]; rfl⟩

/-! ## §4. What is seen in the exchanges -/

section Seen

variable {β : Type} {f : Exchange → Option β} {ending : BoundaryEnd}

/-- An `f` that is blind to the source sees nothing of a registry being read. -/
theorem filterMap_reads (blind : ∀ q reply, f ⟨.source q, reply⟩ = none)
    (reads : s.walk.Reads top u) : u.filterMap f = [] :=
  List.filterMap_eq_nil_iff.mpr
    (reads.forall_mem (blind _) (fun _ => blind _) fun _ => blind _)

/-- All that it sees of `Tells` is the committed top and the update that tells of the new one. -/
theorem filterMap_tells (blind : ∀ q reply, f ⟨.source q, reply⟩ = none)
    (tells : s.Tells last top u) : u.filterMap f = (⟨.checkpoint .readSnapshot, .ok last⟩ ::
      accepting (Departure.due last top)).filterMap f := by
  cases tells with
  | nothing reads none =>
    rw [List.filterMap_append, filterMap_reads blind reads, Departure.due, if_pos none]
    rfl
  | told reads some =>
    rw [List.filterMap_append, filterMap_reads blind reads, Departure.due, if_neg some]
    rfl

/-- A refused update of the registry carries something. -/
theorem due_of_some (some : Departure.update last top ≠ []) :
    Departure.due last top = [Departure.update last top] := if_neg some

@[simp] theorem filterMap_accepting (payloads : List (List StakerRecord)) :
    (accepting payloads).filterMap f =
      payloads.filterMap fun payload => f ⟨.submit ⟨updateCall, payload⟩, .ok ()⟩ := by
  rw [accepting, List.filterMap_map]
  rfl

/-- The `ending` says which updates were offered. -/
theorem EndsIn.offered (ends : s.EndsIn height e t ending) :
    t.filterMap Exchange.offered? = ending.offered e := by
  have blind : ∀ q reply, Exchange.offered? ⟨.source q, reply⟩ = none := fun _ _ => rfl
  cases ends with
  | unflushed some => simp [BoundaryEnd.offered, OpenEpoch.due, some, Exchange.offered?]
  | unsized => simp [BoundaryEnd.offered, Exchange.offered?]
  | unread reads => simp [BoundaryEnd.offered, Exchange.offered?, filterMap_reads blind reads]
  | refused reads some =>
    simp [BoundaryEnd.offered, Exchange.offered?, List.filterMap_cons,
      filterMap_reads blind reads, due_of_some some]
  | unsaved tells | unmarked tells | committed tells =>
    simp [BoundaryEnd.offered, Exchange.offered?, List.filterMap_cons, filterMap_tells blind tells]

/-- It says which updates were accepted (`BoundaryEnd.accepted`). -/
theorem EndsIn.accepted (ends : s.EndsIn height e t ending) :
    t.filterMap Exchange.accepted? = ending.accepted e := by
  have blind : ∀ q reply, Exchange.accepted? ⟨.source q, reply⟩ = none := fun _ _ => rfl
  cases ends with
  | unflushed => rfl
  | unsized => simp [BoundaryEnd.accepted, Exchange.accepted?]
  | unread reads | refused reads =>
    simp [BoundaryEnd.accepted, Exchange.accepted?, List.filterMap_cons,
      filterMap_reads blind reads]
  | unsaved tells | unmarked tells | committed tells =>
    simp [BoundaryEnd.accepted, Exchange.accepted?, List.filterMap_cons,
      filterMap_tells blind tells]

end Seen

end Schedule

/-! ## §5. And in no other -/

/-- The top that the checkpoint tells, or that it is to take, in an exchange. -/
def Exchange.top? : Exchange → Option (List StakerRecord)
  | ⟨.checkpoint .readSnapshot, .ok last⟩ => some last
  | ⟨.checkpoint (.writeSnapshot top), _⟩ => some top
  | _ => none

namespace BoundaryEnd

/-- The tops that the checkpoint told and was to take. -/
def tops : BoundaryEnd → List (List StakerRecord)
  | .unflushed _ | .unsized _ | .unread _ => []
  | .refused last _ _ => [last]
  | .unsaved last top _ | .unmarked last top _ | .committed last top => [last, top]

/-- The last exchange. -/
def final (height : UInt64) (e : OpenEpoch) : BoundaryEnd → Exchange
  | .unflushed failure => ⟨.submit ⟨updateCall, Ranking.top e.records⟩, .error failure⟩
  | .unsized failure => ⟨.source .registrySize, .error failure⟩
  | .unread failure => ⟨.checkpoint .readSnapshot, .error failure⟩
  | .refused last top failure => ⟨.submit ⟨updateCall, Departure.update last top⟩, .error failure⟩
  | .unsaved _ top failure => ⟨.checkpoint (.writeSnapshot top), .error failure⟩
  | .unmarked _ _ failure => ⟨.checkpoint (.writeCursor (height + 1)), .error failure⟩
  | .committed _ _ => ⟨.checkpoint (.writeCursor (height + 1)), .ok ()⟩

end BoundaryEnd

namespace Schedule.EndsIn

variable {s : Schedule} {height : UInt64} {e : OpenEpoch} {t : List Exchange}
  {ending ending' : BoundaryEnd}

/-- Its new top, if it has one, is `Ranked`. -/
theorem ranked (ends : s.EndsIn height e t ending) : ∀ top ∈ ending.top?, Walk.Ranked top := by
  rintro top found
  cases ends with
  | unflushed | unsized | unread => cases found
  | refused reads =>
    cases found
    exact reads.ranked
  | unsaved tells | unmarked tells | committed tells =>
    cases found
    exact tells.ranked

/-- It says which tops were read and written. -/
theorem tops (ends : s.EndsIn height e t ending) : t.filterMap Exchange.top? = ending.tops := by
  have blind : ∀ q reply, Exchange.top? ⟨.source q, reply⟩ = none := fun _ _ => rfl
  have mute (payloads : List (List StakerRecord)) :
      (accepting payloads).filterMap Exchange.top? = [] := by
    simp [accepting, Exchange.top?]
  cases ends with
  | unflushed => rfl
  | unsized => simp [BoundaryEnd.tops, Exchange.top?]
  | unread reads | refused reads =>
    simp [BoundaryEnd.tops, Exchange.top?, List.filterMap_cons, filterMap_reads blind reads]
  | unsaved tells | unmarked tells | committed tells =>
    simp [-filterMap_accepting, BoundaryEnd.tops, Exchange.top?, List.filterMap_cons,
      filterMap_tells blind tells, mute]

/-- It says what the last exchange was (`BoundaryEnd.final`). -/
theorem getLast? (ends : s.EndsIn height e t ending) :
    t.getLast? = some (ending.final height e) := by
  cases ends <;> simp [BoundaryEnd.final, List.getLast?_append]

/-- So the exchanges have one ending only: `EndsIn` is a function of them. -/
theorem unique (ends : s.EndsIn height e t ending) (ends' : s.EndsIn height e t ending') :
    ending = ending' := by
  have final : ending.final height e = ending'.final height e :=
    Option.some.inj (ends.getLast?.symm.trans ends'.getLast?)
  have tops : ending.tops = ending'.tops := ends.tops.symm.trans ends'.tops
  have ranked := ends.ranked
  have ranked' := ends'.ranked
  clear ends ends'
  cases ending with
  | refused last top failure =>
    cases ending' with
    | refused last' top' failure' =>
      -- a refused update gives away the top that it tells of
      obtain ⟨rfl⟩ : last = last' := by simpa [BoundaryEnd.tops] using tops
      obtain ⟨same, rfl⟩ : Departure.update last top = Departure.update last top' ∧
          failure = failure' := by simpa [BoundaryEnd.final] using final
      have told := congrArg (List.filter (·.isActive)) same
      rw [Departure.filter_update last (ranked top rfl).active,
        Departure.filter_update last (ranked' top' rfl).active] at told
      rw [told]
    | _ => simp [BoundaryEnd.final, BoundaryEnd.tops] at final tops
  | _ => cases ending' <;> simp_all [BoundaryEnd.final, BoundaryEnd.tops]

end Schedule.EndsIn

/-! ## §6. What is left in a checkpoint -/

/-- A cursor that is not offered (`Spares`) is not taken. -/
theorem Exchange.Spares.untaken {x : Exchange} (spares : x.Spares) : x.takenCursor? = none := by
  obtain ⟨request, reply⟩ := x
  cases request with
  | checkpoint q =>
    cases q with
    | writeCursor cursor => cases spares.noCursor
    | _ => rfl
  | _ => rfl

namespace Keeping

variable {σ : Type} {k : Keeping σ} {c c' : σ} {t : List Exchange}

/-- A checkpoint that takes nothing holds what it held, cursor and snapshot. -/
theorem through_spares (through : k.goes.Through c t c') (spares : ∀ x ∈ t, x.Spares) :
    k.cursor c' = k.cursor c ∧ k.snapshot c' = k.snapshot c := by
  induction through with
  | here c => exact ⟨rfl, rfl⟩
  | step first rest ih =>
    obtain ⟨here, later⟩ := List.forall_mem_cons.mp spares
    obtain ⟨cursor, snapshot⟩ := ih later
    exact ⟨cursor.trans (k.cursor_goes first here.untaken),
      snapshot.trans (k.snapshot_goes first here.noSnapshot)⟩

/-- What the checkpoint tells of its snapshot then, to `readSnapshot`, is what it held. -/
theorem held_of_recalled (through : k.goes.Through c t c') (spares : ∀ x ∈ t, x.Spares)
    {last : List StakerRecord} (recalled : ⟨.checkpoint .readSnapshot, .ok last⟩ ∈ t) :
    k.snapshot c = .ok last := by
  obtain ⟨pre, post, rfl⟩ := List.append_of_mem recalled
  obtain ⟨c₁, before, after⟩ := through.split
  cases after with
  | step read rest =>
    rw [← (through_spares before fun x member => spares x (List.mem_append_left _ member)).2]
    exact k.snapshot_of_read read

/-- A `top` that is taken is held, and so is the cursor behind it if `reply` accepts it. -/
theorem through_writes {top : List StakerRecord} {h : UInt64} {reply : Except Failure Unit}
    (storable : SnapshotForm.Storable top)
    (through : k.goes.Through c [⟨.checkpoint (.writeSnapshot top), .ok ()⟩,
      ⟨.checkpoint (.writeCursor h), reply⟩] c') :
    k.snapshot c' = .ok top ∧ k.cursor c' = if reply.isOk then .ok h else k.cursor c := by
  cases through with
  | step saved rest =>
    cases rest with
    | step marked rest =>
      cases rest
      have snapshot := k.snapshot_goes marked (by cases reply <;> rfl)
      refine ⟨snapshot.trans (k.snapshot_of_write storable saved), ?_⟩
      cases reply with
      | ok _ => exact k.cursor_of_write marked
      | error failure => exact (k.cursor_goes marked rfl).trans (k.cursor_goes saved rfl)

end Keeping

/-- What a checkpoint is to take at a boundary that ends so, from the first write on that it
    takes. -/
def BoundaryEnd.writes (height : UInt64) : BoundaryEnd → List Exchange
  | .unmarked _ top failure => [⟨.checkpoint (.writeSnapshot top), .ok ()⟩,
      ⟨.checkpoint (.writeCursor (height + 1)), .error failure⟩]
  | .committed _ top => [⟨.checkpoint (.writeSnapshot top), .ok ()⟩,
      ⟨.checkpoint (.writeCursor (height + 1)), .ok ()⟩]
  | _ => []

namespace Schedule

variable {s : Schedule} {height : UInt64} {e : OpenEpoch} {t u : List Exchange}
  {last top : List StakerRecord} {ending : BoundaryEnd}

theorem plain_accepting (payloads : List (List StakerRecord)) :
    ∀ x ∈ accepting payloads, x.Plain :=
  List.forall_mem_map.mpr fun payload _ => .accepted ⟨updateCall, payload⟩

theorem Tells.recalled (tells : s.Tells last top u) :
    ⟨.checkpoint .readSnapshot, .ok last⟩ ∈ u := by
  cases tells with
  | nothing | told => exact List.mem_append_right _ List.mem_cons_self

/-- Up to `ending.writes` the checkpoint takes nothing, and the committed top is read there, if
    at all. -/
theorem EndsIn.writes (ends : s.EndsIn height e t ending) :
    ∃ v, t = v ++ ending.writes height ∧ (∀ x ∈ v, x.Spares) ∧
      ∀ last ∈ ending.last?, ⟨.checkpoint .readSnapshot, .ok last⟩ ∈ v := by
  have flushed := spares_of_plain (plain_accepting e.due)
  have idle {x : Exchange} (noCursor : x.request.newCursor? = none)
      (noSnapshot : x.takenSnapshot? = none) : ∀ y ∈ [x], y.Spares :=
    List.forall_mem_singleton.mpr ⟨noCursor, noSnapshot⟩
  -- only the last two ways get as far as an accepted snapshot; before it all calls spare the
  -- checkpoint
  cases ends with
  | unflushed some failure => exact ⟨_, (List.append_nil _).symm, idle rfl rfl, nofun⟩
  | unsized failure =>
    exact ⟨_, (List.append_nil _).symm, List.forall_mem_append.mpr ⟨flushed, idle rfl rfl⟩, nofun⟩
  | unread reads failure =>
    exact ⟨_, (List.append_nil _).symm, List.forall_mem_append.mpr ⟨flushed,
      List.forall_mem_append.mpr ⟨spares_of_plain reads.plain, idle rfl rfl⟩⟩, nofun⟩
  | refused reads some failure =>
    refine ⟨_, (List.append_nil _).symm, List.forall_mem_append.mpr ⟨flushed,
      List.forall_mem_append.mpr ⟨spares_of_plain reads.plain,
        List.forall_mem_cons.mpr ⟨⟨rfl, rfl⟩, idle rfl rfl⟩⟩⟩, ?_⟩
    rintro last found
    cases found
    exact List.mem_append_right _ (List.mem_append_right _ List.mem_cons_self)
  | unsaved tells failure =>
    refine ⟨_, (List.append_nil _).symm, List.forall_mem_append.mpr ⟨flushed,
      List.forall_mem_append.mpr ⟨spares_of_plain tells.plain, idle rfl rfl⟩⟩, ?_⟩
    rintro last found
    cases found
    exact List.mem_append_right _ (List.mem_append_left _ tells.recalled)
  | unmarked tells | committed tells =>
    refine ⟨_, (List.append_assoc _ _ _).symm,
      List.forall_mem_append.mpr ⟨flushed, spares_of_plain tells.plain⟩, ?_⟩
    rintro last found
    cases found
    exact List.mem_append_right _ tells.recalled

/-- What a checkpoint holds afterwards is `ending.snapshot` and `ending.cursor` of what it held. -/
theorem EndsIn.held (ends : s.EndsIn height e t ending) {σ : Type} {k : Keeping σ} {c c' : σ}
    (through : k.goes.Through c t c') :
    (∀ last ∈ ending.last?, k.snapshot c = .ok last) ∧
      k.snapshot c' = ending.snapshot (k.snapshot c) ∧
      k.cursor c' = ending.cursor height (k.cursor c) := by
  have ranked := ends.ranked
  obtain ⟨v, rfl, spares, recalled⟩ := ends.writes
  obtain ⟨c₁, before, writes⟩ := through.split
  obtain ⟨cursor, snapshot⟩ := Keeping.through_spares before spares
  refine ⟨fun last found => Keeping.held_of_recalled before spares (recalled last found), ?_⟩
  cases ending with
  | unmarked last top failure =>
    obtain ⟨saved, unmarked⟩ := Keeping.through_writes (ranked top rfl).storable writes
    exact ⟨saved, unmarked.trans cursor⟩
  | committed last top => exact Keeping.through_writes (ranked top rfl).storable writes
  | _ =>
    cases writes
    exact ⟨snapshot, cursor⟩

/-- The checkpoint in memory becomes `ending.stored height c`, with its log. -/
theorem EndsIn.stored (ends : s.EndsIn height e t ending) {c c' : VolatileCheckpoint}
    (through : Keeping.volatile.goes.Through c t c') : c' = ending.stored height c := by
  obtain ⟨v, rfl, spares, -⟩ := ends.writes
  obtain ⟨c₁, before, writes⟩ := through.split
  obtain rfl := VolatileCheckpoint.through_spares before spares
  cases ending with
  | unmarked | committed => exact VolatileCheckpoint.through_writes writes
  | _ =>
    cases writes
    rfl

/-! ## §7. Every boundary -/

/-- All that an end of a boundary determines: the exchanges, what the boundary comes to, the
    updates, and what any checkpoint holds that they went through. -/
structure Ended (s : Schedule) (height : UInt64) (e : OpenEpoch) (t : List Exchange)
    (done : Except Failure BoundaryReport × OpenEpoch) (ending : BoundaryEnd) : Prop where
  endsIn : s.EndsIn height e t ending
  outcome : done.1 = ending.outcome height e
  epoch : done.2 = ending.epoch e
  offered : t.filterMap Exchange.offered? = ending.offered e
  accepted : t.filterMap Exchange.accepted? = ending.accepted e
  held : ∀ {σ : Type} (k : Keeping σ) (c c' : σ), k.goes.Through c t c' →
    (∀ last ∈ ending.last?, k.snapshot c = .ok last) ∧
      k.snapshot c' = ending.snapshot (k.snapshot c) ∧
      k.cursor c' = ending.cursor height (k.cursor c)
  stored : ∀ c c' : VolatileCheckpoint, Keeping.volatile.goes.Through c t c' →
    c' = ending.stored height c

end Schedule

/-- Whoever answers, a boundary below `2 ^ 64 - 1` comes to an end, and in just one of the ways
    in which one can end (`BoundaryEnd`). The way says which updates were offered and accepted,
    what is left in the open epoch, what the boundary comes to, and which of snapshot and cursor
    were replaced, by what (`Schedule.Ended`). -/
theorem every_boundary_ends_in_one_way {γ : Type} (answer : Answering γ) (g : γ) (s : Schedule)
    {height : UInt64} (small : height.toNat < 2 ^ 64 - 1) (e : OpenEpoch) :
    ∃! ending : BoundaryEnd, s.Ended height e ((s.settle height e).exchanges answer g)
      ((s.settle height e).run answer g).1 ending := by
  have path := Schedule.settlePath_of_path (path_run answer (s.settle height e) g)
  obtain ⟨ending, ends, done⟩ := path.endsIn small
  refine ⟨ending, ?_, fun ending' ended => ended.endsIn.unique ends⟩
  rw [done]
  exact ⟨ends, rfl, rfl, ends.offered, ends.accepted, fun k c c' => ends.held,
    fun c c' => ends.stored⟩

namespace Session

/-- A checkpoint that holds the staker and takes no cursor. -/
def cursorless : VolatileCheckpoint := ⟨none, [shortRecord], [], true, false⟩

/-- The deposit of the staker waits. -/
def waiting : OpenEpoch := ⟨[shortRecord], some 0⟩

/-- The boundary at height zero. -/
def settling : Dialogue (Except Failure BoundaryReport × OpenEpoch) :=
  shortSchedule.settle 0 waiting

theorem through_cursorless {α : Type} (d : Dialogue α) : Keeping.volatile.goes.Through cursorless
    (d.exchanges shortWorld.answering cursorless) (d.run shortWorld.answering cursorless).2 := by
  refine Surroundings.through_run (I := fun _ => True) (fun r c _ => ⟨?_, trivial⟩) d trivial
  cases r with
  | source q => cases q <;> rfl
  | checkpoint q => exact .inl rfl
  | _ => rfl

theorem exchanges_settling : settling.exchanges shortWorld.answering cursorless =
    [⟨.submit ⟨updateCall, [shortRecord]⟩, .ok ()⟩,
     ⟨.source .registrySize, .ok (0 : UInt64)⟩,
     ⟨.checkpoint .readSnapshot, .ok [shortRecord]⟩,
     ⟨.submit ⟨updateCall, [shortRecord.stopped]⟩, .ok ()⟩,
     ⟨.checkpoint (.writeSnapshot []), .ok ()⟩,
     ⟨.checkpoint (.writeCursor 1), .error (.storage .cursorRefused)⟩] := by
  with_unfolding_all rfl

end Session

/-- Where the cursor is refused (`.cursorRefused`), the deposit and the departure have been
    accepted, and the checkpoint has taken the new top alone. -/
theorem refused_cursor_leaves_the_new_top :
    Session.settling.run shortWorld.answering Session.cursorless =
        ((.error (.storage .cursorRefused), ⟨[], some 0⟩), Session.cursorless.withSnapshot []) ∧
      (Session.settling.exchanges shortWorld.answering Session.cursorless).filterMap
        Exchange.accepted? = [[Session.shortRecord], [Session.shortRecord.stopped]] := by
  have small : (0 : UInt64).toNat < 2 ^ 64 - 1 := by decide
  obtain ⟨ending, ended, -⟩ := every_boundary_ends_in_one_way shortWorld.answering
    Session.cursorless Session.shortSchedule small Session.waiting
  have final := (congrArg List.getLast? Session.exchanges_settling).symm.trans ended.endsIn.getLast?
  have tops := (congrArg (List.filterMap Exchange.top?) Session.exchanges_settling).symm.trans
    ended.endsIn.tops
  cases ending with
  | unmarked last top failure =>
    obtain ⟨rfl, rfl⟩ : [Session.shortRecord] = last ∧ [] = top := by
      simpa [Exchange.top?, List.filterMap_cons, BoundaryEnd.tops] using tops
    obtain rfl : Failure.storage .cursorRefused = failure := by
      simpa [BoundaryEnd.final] using final
    exact ⟨Prod.ext (Prod.ext ended.outcome ended.epoch)
      (ended.stored _ _ (Session.through_cursorless Session.settling)),
      ended.accepted.trans (by with_unfolding_all rfl)⟩
  | _ => simp [BoundaryEnd.final] at final

end StakeRelay
