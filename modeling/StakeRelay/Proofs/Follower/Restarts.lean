/-
  StakeRelay.Proofs.Follower.Restarts — restarts leave no trace.

  A follower that is stopped loses the deposits that it took in since the last boundary.
  The next one starts behind that boundary, where the cursor stands. Nothing was submitted
  and nothing was committed in between, so what the next follower takes in again is just
  what was lost (`exists_rest`), and from where it catches up on, it goes the way that the
  first one would have gone (`agrees_walked`).

  Main statement: `restarts_leave_no_trace`.
-/

import StakeRelay.Proofs.Follower.Arrival
import StakeRelay.Proofs.Follower.Granted

namespace StakeRelay

open Dialogue

/-! ## §1. Walks that agree -/

namespace OpenEpoch

/-- Every height that was taken in lies below the given one. -/
def Below (e : OpenEpoch) (h : UInt64) : Prop := ∀ m, e.mark = some m → m < h

variable {e : OpenEpoch} {h : UInt64}

theorem below_fresh (h : UInt64) : fresh.Below h := by
  intro m mark
  cases mark

/-- An epoch `Below h` takes in the height `h`. -/
theorem Below.accepts (below : e.Below h) : e.accepts h = true := by
  unfold OpenEpoch.accepts
  cases mark : e.mark with
  | none => rfl
  | some m => exact decide_eq_true (below m mark)

/-- And then it is `Below (h + 1)`, as long as `h + 1` does not wrap. -/
theorem Below.absorb (below : e.Below h) (small : h.toNat < 2 ^ 64 - 1)
    (records : List StakerRecord) : (e.absorb h records).Below (h + 1) := by
  rw [absorb_of_accepts records below.accepts]
  intro m mark
  injection mark with mark
  subst mark
  exact Words.lt_succ small

end OpenEpoch

/-- Two tallies that differ at most in the marks of their open epochs. -/
structure Tally.Agrees {κ : Type} (a b : Tally κ) : Prop where
  records : a.epoch.records = b.epoch.records
  effects : a.effects = b.effects
  store : a.store = b.store

theorem Tally.Agrees.symm {κ : Type} {a b : Tally κ} (agrees : a.Agrees b) : b.Agrees a :=
  ⟨agrees.records.symm, agrees.effects.symm, agrees.store.symm⟩

namespace Track

section Walks

variable {κ : Type} {k : Track κ} {h : UInt64} {a b t : Tally κ}

/-- Flushing the deposits (`flushed`) writes nothing to the checkpoint. -/
theorem flushed_store (h : UInt64) (t : Tally κ) : (k.flushed h t).store = t.store := by
  unfold flushed
  simp only
  split <;> rfl

/-- Flushing the deposits leaves the mark of the epoch as it is. -/
theorem flushed_mark (h : UInt64) (t : Tally κ) :
    (k.flushed h t).epoch.mark = (k.gathered h t).epoch.mark := by
  unfold flushed
  simp only
  split <;> rfl

/-- A height that is passed leaves the epoch `Below (h + 1)`. -/
theorem below_passed (below : t.epoch.Below h) (small : h.toNat < 2 ^ 64 - 1) :
    (k.passed h t).epoch.Below (h + 1) := by
  have gathered : (k.gathered h t).epoch.Below (h + 1) := below.absorb small _
  unfold passed
  split
  · intro m mark
    rw [show (k.settled h (k.flushed h t)).epoch = (k.flushed h t).epoch from rfl,
      flushed_mark] at mark
    exact gathered m mark
  · exact gathered

/-- After `n` heights the epoch is `Below (h + .ofNat n)`. -/
theorem below_walked (below : t.epoch.Below h) {n : Nat} (small : h.toNat + n < 2 ^ 64) :
    (k.walked n h t).epoch.Below (h + .ofNat n) := by
  induction n with
  | zero =>
    rw [Words.add_ofNat_zero]
    exact below
  | succ n ih =>
    have place := Words.toNat_add_ofNat (h := h) (n := n) (by omega)
    rw [walked_succ, Words.add_ofNat_succ]
    exact below_passed (ih (by omega)) (by omega)

/-- Tallies that agree up to their marks pass a height that both take in alike: `k.passed h a =
    k.passed h b`. -/
theorem passed_eq (agrees : a.Agrees b) (below : a.epoch.Below h) (below' : b.epoch.Below h) :
    k.passed h a = k.passed h b := by
  have gathered : k.gathered h a = k.gathered h b := by
    ext1
    · show a.epoch.absorb h _ = b.epoch.absorb h _
      rw [OpenEpoch.absorb_of_accepts _ below.accepts, OpenEpoch.absorb_of_accepts _ below'.accepts,
        agrees.records]
    · exact agrees.effects
    · exact agrees.store
  have flushed : k.flushed h a = k.flushed h b := by
    unfold Track.flushed
    rw [gathered]
  unfold passed
  rw [flushed, gathered]

/-- Walks that agree at a height agree ever after, `k.walked n h a` with `k.walked n h b`. -/
theorem agrees_walked (agrees : a.Agrees b) (below : a.epoch.Below h) (below' : b.epoch.Below h)
    (n : Nat) : (k.walked n h a).Agrees (k.walked n h b) := by
  cases n with
  | zero => exact agrees
  | succ n =>
    show (k.walked n (h + 1) (k.passed h a)).Agrees (k.walked n (h + 1) (k.passed h b))
    -- the first height that both take in sets both marks, and nothing is left to differ
    rw [passed_eq agrees below below']
    exact ⟨rfl, rfl, rfl⟩

end Walks

end Track

/-! ## §2. Where a restart goes on -/

/-- The checkpoint refuses no write. -/
structure VolatileCheckpoint.Willing (c : VolatileCheckpoint) : Prop where
  cursors : c.refusesCursors = false
  snapshots : c.refusesSnapshots = false

namespace VolatileCheckpoint.Willing

variable {c : VolatileCheckpoint}

/-- A `Willing` checkpoint takes the cursor and notes it in its log. -/
theorem writeCursor (willing : c.Willing) (height : UInt64) :
    VolatileCheckpoint.answer (.writeCursor height) c =
      (.ok (), { c with cursor := some height, writes := c.writes ++ [.cursor height] }) :=
  if_neg (Bool.eq_false_iff.mp willing.cursors)

/-- A `Willing` checkpoint takes the snapshot and notes its length in its log. -/
theorem writeSnapshot (willing : c.Willing) (snapshot : List StakerRecord) :
    VolatileCheckpoint.answer (.writeSnapshot snapshot) c =
      (.ok (), { c with
        snapshot := snapshot
        writes := c.writes ++ [.snapshot snapshot.length] }) :=
  if_neg (Bool.eq_false_iff.mp willing.snapshots)

/-- It answers every question and stays `Willing`. -/
theorem answer (willing : c.Willing) (q : CheckpointQuery) :
    (∃ a, (VolatileCheckpoint.answer q c).1 = .ok a) ∧ (VolatileCheckpoint.answer q c).2.Willing := by
  cases q with
  | readCursor => exact ⟨⟨_, rfl⟩, willing⟩
  | readSnapshot => exact ⟨⟨_, rfl⟩, willing⟩
  | writeCursor height =>
    rw [willing.writeCursor]
    exact ⟨⟨_, rfl⟩, willing.cursors, willing.snapshots⟩
  | writeSnapshot snapshot =>
    rw [willing.writeSnapshot]
    exact ⟨⟨_, rfl⟩, willing.cursors, willing.snapshots⟩

end VolatileCheckpoint.Willing

/-- The height at which a follower with the given settings goes on from a checkpoint. -/
def FollowerSettings.resumesAt (settings : FollowerSettings) (c : VolatileCheckpoint) : UInt64 :=
  max (c.cursor.getD 0) settings.start

namespace Track

variable {k : Track VolatileCheckpoint} {settings : FollowerSettings}

section Rest

variable (kept : k.world.store = VolatileCheckpoint.answer) {h : UInt64}
  {t : Tally VolatileCheckpoint}

include kept

/-- A boundary that is settled leaves the checkpoint willing, with the cursor `Saturating.add h
    1`. -/
theorem settled_store (willing : t.store.Willing) :
    (k.settled h t).store.Willing ∧ (k.settled h t).store.cursor = some (Saturating.add h 1) := by
  have snapshot : (VolatileCheckpoint.answer (.writeSnapshot k.top) t.store).2.Willing :=
    (willing.answer (.writeSnapshot k.top)).2
  have store : (k.settled h t).store = (VolatileCheckpoint.answer
      (.writeCursor (Saturating.add h 1))
      (VolatileCheckpoint.answer (.writeSnapshot k.top) t.store).2).2 := by
    unfold settled committed
    rw [kept]
    rfl
  rw [store, snapshot.writeCursor]
  exact ⟨⟨snapshot.cursors, snapshot.snapshots⟩, rfl⟩

/-- A checkpoint is still `Willing` when a height was passed. -/
theorem willing_passed (willing : t.store.Willing) : (k.passed h t).store.Willing := by
  unfold passed
  split
  · exact (settled_store kept (by rw [flushed_store]; exact willing)).1
  · exact willing

/-- And when `n` heights were. -/
theorem willing_walked (willing : t.store.Willing) (n : Nat) : (k.walked n h t).store.Willing := by
  induction n generalizing h t with
  | zero => exact willing
  | succ n ih => exact ih (willing_passed kept willing)

/-- A walk has been where a follower would go on from its checkpoint. There it had `j`
    heights behind it, and all that it did since is to take in deposits. -/
theorem exists_rest (first : UInt64) (willing : t.store.Willing) (fresh : t.epoch = .fresh)
    (begins : settings.resumesAt t.store = first) (n : Nat) (small : first.toNat + n < 2 ^ 64) :
    ∃ j ≤ n, settings.resumesAt (k.walked n first t).store = first + .ofNat j ∧
      Tally.Agrees ⟨.fresh, (k.walked n first t).effects, (k.walked n first t).store⟩
        (k.walked j first t) := by
  -- induction on the heights walked; the place to go on moves at boundaries only
  induction n with
  | zero =>
    refine ⟨0, Nat.le_refl 0, ?_, by rw [← fresh]; rfl, rfl, rfl⟩
    rw [Words.add_ofNat_zero]
    exact begins
  | succ n ih =>
    obtain ⟨j, le, height, agrees⟩ := ih (by omega)
    have place := Words.toNat_add_ofNat (h := first) (n := n) (by omega)
    rw [walked_succ, passed]
    split
    · -- behind a boundary the follower would go on just here
      refine ⟨n + 1, Nat.le_refl _, ?_, ?_⟩
      · have before : (k.flushed (first + .ofNat n) (k.walked n first t)).store.Willing := by
          rw [flushed_store]
          exact willing_walked kept willing n
        unfold FollowerSettings.resumesAt
        rw [(settled_store kept before).2, Words.add_ofNat_succ, Option.getD_some,
          Words.add_one_eq (by omega), ← UInt64.toNat_inj, Words.toNat_max,
          Words.toNat_succ (by omega)]
        have least := congrArg UInt64.toNat begins
        rw [FollowerSettings.resumesAt, Words.toNat_max] at least
        omega
      · rw [walked_succ, passed, if_pos ‹_›]
        exact ⟨(flushed_cleared _).1.symm, rfl, rfl⟩
    · -- within an epoch nothing but the open epoch changes
      exact ⟨j, Nat.le_succ_of_le le, height, agrees⟩

end Rest

/-! ## §3. Lives -/

/-- One life of a follower where no call fails. It goes on from the cursor, and `f` is what
    it is at the top of its loop, where it may have been asked to stop. -/
structure Life (k : Track VolatileCheckpoint) (settings : FollowerSettings)
    (s : VolatileCheckpoint) (t : List Exchange) (s' : VolatileCheckpoint) (f : Follower) :
    Prop where
  path : ∃ rounds run,
    Path (Session.dialogue ⟨settings, k.scanner, k.schedule, true, rounds⟩) t (.done (.ok run)) ∧
      run.follower = f ∧ (run.outcome = none ∨ run.outcome = some (.ok ()))
  granted : k.world.grants.Through s t s'

/-- Any number of lives, one after another. `f` is what the last follower is in the end. -/
inductive Lives (k : Track VolatileCheckpoint) (settings : FollowerSettings) :
    VolatileCheckpoint → List Exchange → VolatileCheckpoint → Follower → Prop
  | last {s s' : VolatileCheckpoint} {t : List Exchange} {f : Follower}
      (life : k.Life settings s t s' f) : Lives k settings s t s' f
  | restart {s s' s'' : VolatileCheckpoint} {t u : List Exchange} {f g : Follower}
      (life : k.Life settings s t s' f) (rest : Lives k settings s' u s'' g) :
      Lives k settings s (t ++ u) s'' g

/-- What is there agrees with a walk of `n` heights from where a follower goes on from
    `s₀`, and the heights on the way are open. -/
structure Stands (k : Track VolatileCheckpoint) (settings : FollowerSettings)
    (s₀ : VolatileCheckpoint) (n : Nat) (t : Tally VolatileCheckpoint) : Prop where
  room : (settings.resumesAt s₀).toNat + n < 2 ^ 64
  opens : ∀ i < n, k.Open settings (settings.resumesAt s₀ + .ofNat i)
  agrees : (k.walked n (settings.resumesAt s₀) ⟨.fresh, [], s₀⟩).Agrees t

variable (kept : k.world.store = VolatileCheckpoint.answer) {s₀ s s' : VolatileCheckpoint}
  {t : List Exchange} {f : Follower}

include kept

/-- A life comes from `settings.resumesAt s`, where the cursor stands, to `f.current`. -/
theorem Life.came (life : k.Life settings s t s' f) (fits : ∀ x ∈ t, x.Fits)
    (pre : List Exchange) :
    k.Came settings (settings.resumesAt s) ⟨.fresh, effects pre, s⟩ f.current
      ⟨f.epoch, effects (pre ++ t), s'⟩ := by
  obtain ⟨rounds, run, path, rfl, ends⟩ := life.path
  have through : k.granting.Through (.of pre, s) t (.of (pre ++ t), s') :=
    (Chronicle.through_follows_from pre fun _ x _ whole =>
      fits x (by simp [whole])).beside life.granted
  have conducts : (Session.dialogue ⟨settings, k.scanner, k.schedule, true, rounds⟩).Conducts
      k.granting free (fun outcome w => ∀ run : Follower.Run, outcome = .ok run →
        run.outcome = none ∨ run.outcome = some (.ok ()) →
        k.Came settings (settings.resumesAt s) ⟨.fresh, effects pre, s⟩ run.follower.current
          (tally run.follower.epoch w)) (.of pre, s) := by
    refine Session.conducts_resumed rfl fun reply w step => ⟨trivial, ?_⟩
    obtain ⟨⟨-, account⟩, ⟨answered, -⟩, -⟩ := step
    obtain ⟨c, s₁⟩ := w
    -- reading the cursor changes neither the account nor the checkpoint
    rw [kept] at answered
    obtain ⟨rfl, rfl⟩ := Prod.mk.inj answered
    obtain rfl : c = (Chronicle.of pre).after _ := account
    refine (conducts_turns_came rounds _ _).mono ?_
    intro run' w' came run same ends
    injection same with same
    subst same
    exact came ends
  exact conducts.result path through run rfl ends

/-- What agrees with a walk of `n` heights before a life agrees with a walk of some `m` heights
    after it (`Stands`). -/
theorem Life.stands {n : Nat} {e : OpenEpoch} {pre : List Exchange} (willing : s₀.Willing)
    (stands : k.Stands settings s₀ n ⟨e, effects pre, s⟩) (life : k.Life settings s t s' f)
    (fits : ∀ x ∈ t, x.Fits) :
    ∃ m, f.current = settings.resumesAt s₀ + .ofNat m ∧
      k.Stands settings s₀ m ⟨f.epoch, effects (pre ++ t), s'⟩ := by
  obtain ⟨room, opens, -, told, held⟩ := stands
  -- the life starts `j` heights behind the first start, and has `i` heights behind itself
  obtain ⟨j, le, rests, agrees⟩ :=
    exists_rest kept (settings.resumesAt s₀) (t := ⟨.fresh, [], s₀⟩) willing rfl rfl n room
  obtain ⟨i, place, walk, later⟩ := life.came kept fits pre
  simp only at told held
  rw [told, held] at agrees
  rw [held] at rests
  rw [rests] at place walk later
  have early := Words.toNat_add_ofNat (h := settings.resumesAt s₀) (n := j) (by omega)
  rw [early, Nat.add_assoc] at place
  refine ⟨j + i, (Words.add_ofNat place).symm, ⟨by rw [← place]; exact f.current.toNat_lt, ?_, ?_⟩⟩
  · -- up to the restart the heights were open before, and then they were to this life
    intro l below
    by_cases before : l < j
    · exact opens l (Nat.lt_of_lt_of_le before le)
    · have opened := later (l - j) (by omega)
      rw [Words.add_ofNat_add, Nat.add_sub_of_le (Nat.le_of_not_lt before)] at opened
      exact opened
  · rw [walk, walked_add]
    exact (agrees_walked agrees (OpenEpoch.below_fresh _)
      (below_walked (OpenEpoch.below_fresh _) (by omega)) i).symm

/-- Any number of lives, one after another, agree with one walk from `settings.resumesAt s₀`. -/
theorem Lives.stands {n : Nat} {e : OpenEpoch} {pre : List Exchange} (willing : s₀.Willing)
    (stands : k.Stands settings s₀ n ⟨e, effects pre, s⟩) (lives : k.Lives settings s t s' f)
    (fits : ∀ x ∈ t, x.Fits) :
    ∃ m, f.current = settings.resumesAt s₀ + .ofNat m ∧
      k.Stands settings s₀ m ⟨f.epoch, effects (pre ++ t), s'⟩ := by
  induction lives generalizing n e pre with
  | last life => exact life.stands kept willing stands fits
  | restart life rest ih =>
    obtain ⟨first, later⟩ := List.forall_mem_append.mp fits
    obtain ⟨m, -, between⟩ := life.stands kept willing stands first
    rw [← List.append_assoc]
    exact ih between later

/-- If the `n` heights behind the cursor are `Open`, there is a life that passes them all and is
    not stopped. -/
theorem exists_life (willing : s.Willing) {n : Nat}
    (opens : ∀ i < n, k.Open settings (settings.resumesAt s + .ofNat i)) :
    ∃ u s' f, k.Life settings s u s' f ∧ (∀ x ∈ u, x.Fits) ∧
      f.current = settings.resumesAt s + .ofNat n := by
  let d := Session.dialogue ⟨settings, k.scanner, k.schedule, true, n⟩
  have through : k.world.urges.Through s (d.exchanges k.world.answering s)
      (d.run k.world.answering s).2 := by
    refine Surroundings.through_run (I := VolatileCheckpoint.Willing) ?_ d willing
    intro r c sound
    refine StillWorld.urges_answering r sound ?_
    rw [kept]
    exact sound.answer
  have conducts : d.Conducts k.world.urges .fitting (fun outcome _ => ∃ run, outcome = .ok run ∧
      run.outcome = none ∧ run.follower.current = settings.resumesAt s + .ofNat n) s := by
    refine Session.conducts_resumed rfl fun reply s₁ step => ⟨trivial, ?_⟩
    obtain ⟨⟨⟨answered, -⟩, -⟩, -⟩ := step
    rw [kept] at answered
    obtain ⟨rfl, rfl⟩ := Prod.mk.inj answered
    refine (conducts_turns_ahead n _ ⟨rfl, rfl⟩ rfl rfl ?_ s).mono ?_
    · exact fun i below => ⟨(opens i below).fits, (opens i below).lively, (opens i below).confirmed,
        (opens i below).readable⟩
    · exact fun run _ comes => ⟨run, rfl, comes⟩
  have path := path_run k.world.answering d s
  obtain ⟨allowed, run, ended, goesOn, place⟩ := conducts.path path through
  rw [ended] at path
  exact ⟨_, _, run.follower, ⟨⟨n, run, path, rfl, .inl goesOn⟩,
    through.mono fun _ _ _ step => step.1⟩, allowed.each fun _ _ _ fits => fits, place⟩

end Track

/-- Restarts leave no trace, as long as the heights do not run out: no block at `2 ^ 64 - 1` is
    asked for, neither by the lives (`fits`) nor by the single one. Take any number of lives in a
    still world where no call fails, each of them stopped at any height, and each new follower
    going on from the cursor. A single follower that is never stopped can come from the first
    one's start to the height where the last one is, and whenever it does, it has the same
    accepted updates and the same writes of the checkpoint in the same order, the same
    checkpoint, and the same deposits in its open epoch. The last follower need not have caught
    up with the heights at which the others were stopped. -/
theorem restarts_leave_no_trace {k : Track VolatileCheckpoint}
    (kept : k.world.store = VolatileCheckpoint.answer) {settings : FollowerSettings}
    {s s' : VolatileCheckpoint} (willing : s.Willing) {t : List Exchange} {f : Follower}
    (lives : k.Lives settings s t s' f) (fits : ∀ x ∈ t, x.Fits) :
    (∃ u s'' g, k.Life settings s u s'' g ∧ (∀ x ∈ u, x.Fits) ∧ g.current = f.current) ∧
      ∀ u s'' g, k.Life settings s u s'' g → (∀ x ∈ u, x.Fits) → g.current = f.current →
        effects t = effects u ∧ s' = s'' ∧ f.epoch.records = g.epoch.records := by
  have start : k.Stands settings s 0 ⟨.fresh, effects [], s⟩ :=
    ⟨(settings.resumesAt s).toNat_lt, fun _ => nofun, rfl, rfl, rfl⟩
  obtain ⟨n, place, stands⟩ := lives.stands kept willing start fits
  rw [List.nil_append] at stands
  constructor
  · rw [place]
    exact Track.exists_life kept willing stands.opens
  · intro u s'' g single fits' same
    obtain ⟨m, place', stands'⟩ := single.stands kept willing start fits'
    rw [List.nil_append] at stands'
    -- both are as many heights behind the start, so they agree with the same walk
    have length : n = m := by
      have heights := congrArg UInt64.toNat (place'.symm.trans (same.trans place))
      rw [Words.toNat_add_ofNat stands.room, Words.toNat_add_ofNat stands'.room] at heights
      omega
    subst length
    exact ⟨stands.agrees.effects.symm.trans stands'.agrees.effects,
      stands.agrees.store.symm.trans stands'.agrees.store,
      stands.agrees.records.symm.trans stands'.agrees.records⟩

namespace Session

/-- Starts at height two. -/
def pairSettings : FollowerSettings := ⟨2, 0, 2, 0⟩

/-- An epoch has two blocks. -/
def pairSchedule : Schedule := ⟨2, .full, by decide⟩

/-- The still world of the short session with another head. -/
def headedWorld (head : UInt64) : StillWorld VolatileCheckpoint := { shortWorld with head := head }

/-- It has epochs of two blocks. -/
def pairTrack : Track VolatileCheckpoint := ⟨headedWorld 5, shortScanner, pairSchedule⟩

/-- A round up to the block, which holds the deposit of the short session. -/
def pairScan (head height : UInt64) : List Exchange :=
  [⟨.stopRequested, false⟩,
   ⟨.source .head, .ok head⟩,
   ⟨.source (.logs (.ofBlock shortScanner.contract shortScanner.topic height)), .ok [shortLog]⟩]

/-- The deposits are submitted, and the empty registry is committed. -/
def pairCommit (height : UInt64) (deposits last : List StakerRecord) : List Exchange :=
  [⟨.submit ⟨updateCall, Ranking.top deposits⟩, .ok ()⟩,
   ⟨.source .registrySize, .ok (0 : UInt64)⟩,
   ⟨.checkpoint .readSnapshot, .ok last⟩,
   ⟨.checkpoint (.writeSnapshot (Ranking.top [])), .ok ()⟩,
   ⟨.checkpoint (.writeCursor (Saturating.add height 1)), .ok ()⟩]

/-- The record of the deposit. -/
def pairRecord : StakerRecord := .ofAddress shortStaker shortAmount

/-- Heights two and three, and a stop before the next boundary. -/
def stoppedLife : List Exchange :=
  ⟨.checkpoint .readCursor, .ok (0 : UInt64)⟩ :: pairScan 5 2 ++ pairCommit 2 [pairRecord] [] ++
    pairScan 5 3 ++ [⟨.stopRequested, true⟩]

/-- Height three again, and the boundary. -/
def resumedLife : List Exchange :=
  ⟨.checkpoint .readCursor, .ok (3 : UInt64)⟩ :: pairScan 5 3 ++ pairScan 5 4 ++
    pairCommit 4 [pairRecord, pairRecord] (Ranking.top [])

/-- Heights two, three and four. -/
def wholeLife : List Exchange :=
  ⟨.checkpoint .readCursor, .ok (0 : UInt64)⟩ :: pairScan 5 2 ++ pairCommit 2 [pairRecord] [] ++
    pairScan 5 3 ++ pairScan 5 4 ++ pairCommit 4 [pairRecord, pairRecord] (Ranking.top [])

/-- The checkpoint behind a boundary at which the empty registry was committed. -/
def emptyKept (height : UInt64) (writes : List CheckpointWrite) : VolatileCheckpoint :=
  ⟨some (Saturating.add height 1), Ranking.top [],
    writes ++ [.snapshot (Ranking.top []).length] ++ [.cursor (Saturating.add height 1)], false, false⟩

/-- The checkpoint behind the boundary at height two. -/
def pairKept : VolatileCheckpoint := emptyKept 2 []

/-- The checkpoint behind the boundary at height four. -/
def pairKept' : VolatileCheckpoint := emptyKept 4 pairKept.writes

theorem path_stopped : ∃ run,
    Path (Session.dialogue ⟨pairSettings, shortScanner, pairSchedule, true, 3⟩) stoppedLife
      (.done (.ok run)) ∧ run.outcome = some (.ok ()) := by
  apply Exists.intro
  constructor
  · with_unfolding_all
      iterate 13 apply Path.step
      apply Path.here
  · rfl

theorem path_resumed : ∃ run,
    Path (Session.dialogue ⟨pairSettings, shortScanner, pairSchedule, true, 2⟩) resumedLife
      (.done (.ok run)) ∧ run.outcome = none ∧ run.follower.current = 5 := by
  apply Exists.intro
  constructor
  · with_unfolding_all
      iterate 12 apply Path.step
      apply Path.here
  · exact ⟨rfl, rfl⟩

theorem path_whole : ∃ run,
    Path (Session.dialogue ⟨pairSettings, shortScanner, pairSchedule, true, 3⟩) wholeLife
      (.done (.ok run)) ∧ run.outcome = none ∧ run.follower.current = 5 := by
  apply Exists.intro
  constructor
  · with_unfolding_all
      iterate 20 apply Path.step
      apply Path.here
  · exact ⟨rfl, rfl⟩

/-- A world with a `head` grants the reading of the cursor. -/
theorem granted_read (head : UInt64) (s : VolatileCheckpoint) :
    (headedWorld head).grants.Through s [⟨.checkpoint .readCursor, .ok (s.cursor.getD 0)⟩] s :=
  .step ⟨⟨rfl, _, rfl⟩, _, rfl⟩ (.here s)

/-- It grants the scan of a height, `pairScan`, which shows the one deposit. -/
theorem granted_scan (head height : UInt64) (s : VolatileCheckpoint) :
    (headedWorld head).grants.Through s (pairScan head height) s :=
  .step ⟨rfl, trivial⟩ (.step ⟨⟨rfl, .inl rfl⟩, _, rfl⟩ (.step ⟨⟨rfl, .inl rfl⟩, _, rfl⟩ (.here s)))

theorem granted_stop (head : UInt64) (s : VolatileCheckpoint) :
    (headedWorld head).grants.Through s [⟨.stopRequested, true⟩] s :=
  .step ⟨rfl, trivial⟩ (.here s)

/-- It grants the commit of a boundary, `pairCommit`, at which deposits are flushed and the
    registry is empty. -/
theorem granted_commit (head height : UInt64) (deposits last : List StakerRecord)
    (cursor : Option UInt64) (writes : List CheckpointWrite) :
    (headedWorld head).grants.Through ⟨cursor, last, writes, false, false⟩
      (pairCommit height deposits last) (emptyKept height writes) :=
  .step ⟨⟨rfl, rfl⟩, _, rfl⟩ (.step ⟨⟨rfl, .inl rfl⟩, _, rfl⟩ (.step ⟨⟨rfl, _, rfl⟩, _, rfl⟩
    (.step ⟨⟨rfl, _, rfl⟩, _, rfl⟩ (.step ⟨⟨rfl, _, rfl⟩, _, rfl⟩ (.here _)))))

theorem life_stopped : ∃ f, pairTrack.Life pairSettings .empty stoppedLife pairKept f := by
  obtain ⟨run, path, ended⟩ := path_stopped
  have boundary := ((granted_read 5 .empty).append (granted_scan 5 2 .empty)).append
    (granted_commit 5 2 [pairRecord] [] none [])
  exact ⟨_, ⟨3, run, path, rfl, .inr ended⟩,
    (boundary.append (granted_scan 5 3 pairKept)).append (granted_stop 5 pairKept)⟩

theorem life_resumed : ∃ f, pairTrack.Life pairSettings pairKept resumedLife pairKept' f ∧
    f.current = 5 := by
  obtain ⟨run, path, ended, place⟩ := path_resumed
  have scans := ((granted_read 5 pairKept).append (granted_scan 5 3 pairKept)).append
    (granted_scan 5 4 pairKept)
  exact ⟨run.follower, ⟨⟨2, run, path, rfl, .inl ended⟩, scans.append
    (granted_commit 5 4 [pairRecord, pairRecord] (Ranking.top []) (some 3) pairKept.writes)⟩, place⟩

theorem life_whole : ∃ f, pairTrack.Life pairSettings .empty wholeLife pairKept' f ∧
    f.current = 5 := by
  obtain ⟨run, path, ended, place⟩ := path_whole
  have boundary := ((granted_read 5 .empty).append (granted_scan 5 2 .empty)).append
    (granted_commit 5 2 [pairRecord] [] none [])
  have scans := (boundary.append (granted_scan 5 3 pairKept)).append (granted_scan 5 4 pairKept)
  exact ⟨run.follower, ⟨⟨3, run, path, rfl, .inl ended⟩, scans.append
    (granted_commit 5 4 [pairRecord, pairRecord] (Ranking.top []) (some 3) pairKept.writes)⟩, place⟩

theorem fits_pairs : (∀ x ∈ stoppedLife ++ resumedLife, x.Fits) ∧ ∀ x ∈ wholeLife, x.Fits := by
  constructor <;>
    simp [stoppedLife, resumedLife, wholeLife, pairScan, pairCommit, Exchange.Fits, LogFilter.ofBlock]

end Session

open Session in
/-- A stop between two boundaries leaves no trace. -/
theorem stop_between_boundaries : effects (stoppedLife ++ resumedLife) = effects wholeLife := by
  obtain ⟨f, stopped⟩ := life_stopped
  obtain ⟨g, resumed, place⟩ := life_resumed
  obtain ⟨g', whole, place'⟩ := life_whole
  have lives : pairTrack.Lives pairSettings .empty (stoppedLife ++ resumedLife) pairKept' g :=
    .restart stopped (.last resumed)
  have same := (restarts_leave_no_trace (k := pairTrack) rfl ⟨rfl, rfl⟩ lives fits_pairs.1).2
  exact (same wholeLife pairKept' g' whole fits_pairs.2 (place'.trans place.symm)).1

namespace Session

/-- The still world has come to the greatest height, and each block is an epoch. -/
def lastTrack : Track VolatileCheckpoint := ⟨headedWorld lastHeight, shortScanner, shortSchedule⟩

/-- Starts at the greatest height. -/
def lastSettings : FollowerSettings := { shortSettings with start := lastHeight }

/-- The greatest height, and a stop behind it. -/
def lastLife (cursor : UInt64) (last : List StakerRecord) : List Exchange :=
  ⟨.checkpoint .readCursor, .ok cursor⟩ :: pairScan lastHeight lastHeight ++
    pairCommit lastHeight [pairRecord] last ++ [⟨.stopRequested, true⟩]

/-- A cursor of zero and one at the greatest height both lead to the same life. -/
theorem path_last {cursor : UInt64} {last : List StakerRecord}
    (either : cursor = 0 ∧ last = [] ∨ cursor = lastHeight ∧ last = Ranking.top []) :
    ∃ run, Path (Session.dialogue ⟨lastSettings, shortScanner, shortSchedule, true, 2⟩)
      (lastLife cursor last) (.done (.ok run)) ∧ run.outcome = some (.ok ()) ∧
      run.follower.current = 0 := by
  rcases either with ⟨rfl, rfl⟩ | ⟨rfl, rfl⟩ <;>
  · apply Exists.intro
    constructor
    · with_unfolding_all
        iterate 10 apply Path.step
        apply Path.here
    · exact ⟨rfl, rfl⟩

theorem life_last (held : Option UInt64) {last : List StakerRecord} (writes : List CheckpointWrite)
    (either : held.getD 0 = 0 ∧ last = [] ∨
      held.getD 0 = lastHeight ∧ last = Ranking.top []) :
    ∃ f, lastTrack.Life lastSettings ⟨held, last, writes, false, false⟩
      (lastLife (held.getD 0) last) (emptyKept lastHeight writes) f ∧ f.current = 0 := by
  obtain ⟨run, path, ended, place⟩ := path_last either
  have boundary := ((granted_read lastHeight ⟨held, last, writes, false, false⟩).append
    (granted_scan lastHeight lastHeight _)).append
    (granted_commit lastHeight lastHeight [pairRecord] last held writes)
  exact ⟨run.follower, ⟨⟨2, run, path, rfl, .inr ended⟩, boundary.append (granted_stop _ _)⟩, place⟩

end Session

open Session in
/-- Behind the greatest height the heights start again from zero, and the cursor stays at it. A
    follower that is stopped there, at the height `0`, is followed by one that submits the same
    update again, which a single follower up to the height `0` submits once. -/
theorem restart_repeats_last_height :
    (∃ s f, lastTrack.Lives lastSettings .empty
      (lastLife 0 [] ++ lastLife lastHeight (Ranking.top [])) s f ∧ f.current = 0) ∧
    (∃ s g, lastTrack.Life lastSettings .empty (lastLife 0 []) s g ∧ g.current = 0) ∧
    (acceptedFor .deposits
      (effects (lastLife 0 [] ++ lastLife lastHeight (Ranking.top [])))).length = 2 ∧
    (acceptedFor .deposits (effects (lastLife 0 []))).length = 1 := by
  obtain ⟨f, life, place⟩ := life_last none [] (.inl ⟨rfl, rfl⟩)
  obtain ⟨g, again, place'⟩ := life_last (some (Saturating.add lastHeight 1))
    (emptyKept lastHeight []).writes (.inr ⟨rfl, rfl⟩)
  exact ⟨⟨_, g, .restart life (.last again), place'⟩, ⟨_, f, life, place⟩, rfl, rfl⟩

end StakeRelay
