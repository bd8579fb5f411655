/-
  StakeRelay.Proofs.Follower.Once — within one run nothing is submitted twice.

  A boundary may be tried again many times: after its scan, after its deposits were
  accepted, or in the middle of the registry. Three things keep an update from going out
  a second time.
    * The open epoch keeps its mark when it is emptied, so a block that is scanned again
      is not taken in again.
    * An open epoch without records is not submitted.
    * A refused update and a refused write end the run, so nothing is tried again behind
      an accepted registry.

  Heights are counted by how many came before them in the run. Words wrap around, so two
  heights of a run differ as long as the run has at most 2^64 exchanges.

  Main statement: `nothing_submitted_twice`.
-/

import Mathlib.Algebra.Group.Nat.Defs
import StakeRelay.Proofs.Checkpoint.Keeping
import StakeRelay.Proofs.Follower.Session

namespace StakeRelay

open Dialogue

/-! ## §1. Heights of a run -/

/-- The height that has `k` heights of the run before it. -/
def placeAfter (start : UInt64) (k : Nat) : UInt64 := start + UInt64.ofNat k

/-- One height behind `placeAfter start k` is `placeAfter start (k + 1)`. -/
theorem placeAfter_succ (start : UInt64) (k : Nat) :
    placeAfter start k + 1 = placeAfter start (k + 1) := by
  unfold placeAfter
  rw [UInt64.ofNat_add, UInt64.add_assoc]
  rfl

/-- Fewer than `2 ^ 64` heights from `start` on are all different. -/
theorem placeAfter_inj {start : UInt64} {i j : Nat} (hi : i < 2 ^ 64) (hj : j < 2 ^ 64)
    (same : placeAfter start i = placeAfter start j) : i = j := by
  have words : UInt64.ofNat i = UInt64.ofNat j := by
    unfold placeAfter at same
    exact UInt64.add_right_inj start |>.mp same
  have numbers := congrArg UInt64.toNat words
  rwa [UInt64.toNat_ofNat', UInt64.toNat_ofNat', Nat.mod_eq_of_lt hi, Nat.mod_eq_of_lt hj]
    at numbers

/-- So rising numbers below `2 ^ 64` give different heights. -/
theorem nodup_places {start : UInt64} {js : List Nat} (rising : js.Pairwise (· < ·))
    (small : ∀ j ∈ js, j < 2 ^ 64) : (js.map (placeAfter start)).Nodup := by
  rw [List.Nodup, List.pairwise_map]
  -- two heights of the run are the same word only if they are the same height
  refine rising.imp_of_mem fun hi hj less same => ?_
  have := placeAfter_inj (small _ hi) (small _ hj) same
  omega

/-! ## §2. Updates and the scans that they carry -/

/-- The accepted updates of one kind, each at a later height of the run than the one
    before it. -/
structure Rising (start : UInt64) (purpose : Purpose) (es : List Effect) (js : List Nat) :
    Prop where
  places : (acceptedFor purpose es).map Prod.fst = js.map (placeAfter start)
  rising : js.Pairwise (· < ·)

/-- The deposits that an update with these scans carries. -/
def Scan.payload (share : List Scan) : List StakerRecord :=
  Ranking.top (share.flatMap Scan.records)

/-- Each accepted deposit update carries a share of the scans. No scan is in two shares,
    nor are two scans of one height; the scans that wait are in none. -/
structure Shared (es : List Effect) (scans : List Scan) (shares : List (List Scan))
    (waiting : List Scan) : Prop where
  payloads : (acceptedFor .deposits es).map Prod.snd = shares.map Scan.payload
  among : (shares.flatten ++ waiting).Sublist scans
  rising : (shares.flatten ++ waiting).Pairwise fun a b => a.height < b.height

variable {start : UInt64} {purpose : Purpose} {es : List Effect} {scans : List Scan}
  {js : List Nat} {shares : List (List Scan)} {waiting : List Scan}

/-- Effects that are no accepted update of the kind leave it `Rising`. -/
theorem Rising.other (r : Rising start purpose es js) {fs : List Effect}
    (other : acceptedFor purpose fs = []) : Rising start purpose (es ++ fs) js := by
  refine ⟨?_, r.rising⟩
  rw [acceptedFor_append, other, List.append_nil, r.places]

/-- An update at `placeAfter start k`, with every earlier one below `k`, keeps it `Rising`. -/
theorem Rising.accept (r : Rising start purpose es js) {k : Nat} (below : ∀ j ∈ js, j < k)
    (payload : List StakerRecord) :
    Rising start purpose (es ++ [.accepted purpose (placeAfter start k) payload]) (js ++ [k]) := by
  constructor
  · rw [acceptedFor_append, List.map_append, List.map_append, r.places]
    simp [acceptedFor]
  · refine List.pairwise_append.mpr ⟨r.rising, List.pairwise_singleton _ _, ?_⟩
    intro i hi j hj
    rw [List.mem_singleton.mp hj]
    exact below i hi

/-- Effects that are no accepted deposit update leave the shares as they are (`acceptedFor
    .deposits`). -/
theorem Shared.other (s : Shared es scans shares waiting) {fs : List Effect}
    (other : acceptedFor .deposits fs = []) : Shared (es ++ fs) scans shares waiting := by
  refine ⟨?_, s.among, s.rising⟩
  rw [acceptedFor_append, other, List.append_nil, s.payloads]

/-- So do `more` scans that are not taken in. -/
theorem Shared.pass (s : Shared es scans shares waiting) (more : List Scan) :
    Shared es (scans ++ more) shares waiting :=
  ⟨s.payloads, s.among.trans (List.sublist_append_left _ _), s.rising⟩

/-- A scan of a later height than all that were taken in joins those that wait (`waiting`). -/
theorem Shared.absorb (s : Shared es scans shares waiting) {scan : Scan}
    (later : ∀ earlier ∈ shares.flatten ++ waiting, earlier.height < scan.height) :
    Shared es (scans ++ [scan]) shares (waiting ++ [scan]) := by
  refine ⟨s.payloads, ?_, ?_⟩
  · rw [← List.append_assoc]
    exact s.among.append (List.Sublist.refl _)
  · rw [← List.append_assoc]
    refine List.pairwise_append.mpr ⟨s.rising, List.pairwise_singleton _ _, ?_⟩
    intro earlier member scan' here
    rw [List.mem_singleton.mp here]
    exact later earlier member

/-- An update with `Scan.payload waiting` makes a share of the scans that wait, and none waits
    then. -/
theorem Shared.flush (s : Shared es scans shares waiting) (h : UInt64) :
    Shared (es ++ [.accepted .deposits h (Scan.payload waiting)]) scans (shares ++ [waiting]) [] := by
  have flat : (shares ++ [waiting]).flatten ++ [] = shares.flatten ++ waiting := by simp
  refine ⟨?_, by rw [flat]; exact s.among, by rw [flat]; exact s.rising⟩
  rw [acceptedFor_append, List.map_append, List.map_append, s.payloads]
  simp [acceptedFor]

/-! ## §3. The invariant of the loop -/

/-- What a run has done so far: the deposit updates went out at heights with fewer than
    `deposited` heights before them, the registry updates at heights with fewer than
    `registered`, and the open epoch holds the scans that wait. -/
structure Passing (start : UInt64) (deposited registered : Nat) (e : OpenEpoch)
    (es : List Effect) (scans : List Scan) : Prop where
  deposits : ∃ js, Rising start .deposits es js ∧ ∀ j ∈ js, j < deposited
  registry : ∃ js, Rising start .registry es js ∧ ∀ j ∈ js, j < registered
  shares : ∃ shares waiting, Shared es scans shares waiting ∧
    e.records = waiting.flatMap Scan.records ∧
    ∀ s ∈ shares.flatten ++ waiting, ∃ m, e.mark = some m ∧ s.height ≤ m
  depositsScanned : deposited ≤ scans.length
  registryScanned : registered ≤ scans.length

/-- The deposits of a height are out of the way. -/
def OpenEpoch.Cleared (e : OpenEpoch) (h : UInt64) : Prop :=
  e.records = [] ∧ e.accepts h = false

/-- The invariant of the loop: nothing went out at the current height, or just the
    deposits. -/
def OnceTop (start : UInt64) (e : OpenEpoch) (h : UInt64) (es : List Effect)
    (scans : List Scan) : Prop :=
  ∃ k, h = placeAfter start k ∧ (Passing start k k e es scans ∨
    (Passing start (k + 1) k e es scans ∧ e.Cleared h))

/-- What is true of a run at any moment. -/
def Once (start : UInt64) (es : List Effect) (scans : List Scan) : Prop :=
  ∃ e deposited registered, Passing start deposited registered e es scans

variable {deposited registered : Nat} {e : OpenEpoch} {h : UInt64}

theorem Passing.once (p : Passing start deposited registered e es scans) : Once start es scans :=
  ⟨e, deposited, registered, p⟩

theorem OnceTop.once (top : OnceTop start e h es scans) : Once start es scans := by
  obtain ⟨k, -, p | ⟨p, -⟩⟩ := top
  · exact p.once
  · exact p.once

theorem passing_fresh : Passing start 0 0 .fresh [] [] where
  deposits := ⟨[], ⟨rfl, .nil⟩, nofun⟩
  registry := ⟨[], ⟨rfl, .nil⟩, nofun⟩
  shares := ⟨[], [], ⟨rfl, List.nil_sublist _, .nil⟩, rfl, nofun⟩
  depositsScanned := Nat.le_refl 0
  registryScanned := Nat.le_refl 0

/-- An effect that is no accepted update leaves a run `Passing`. -/
theorem Passing.other (p : Passing start deposited registered e es scans) {fs : List Effect}
    (other : ∀ purpose, acceptedFor purpose fs = []) :
    Passing start deposited registered e (es ++ fs) scans := by
  obtain ⟨ds, rising, below⟩ := p.deposits
  obtain ⟨rs, rising', below'⟩ := p.registry
  obtain ⟨shares, waiting, shared, records, marked⟩ := p.shares
  exact ⟨⟨ds, rising.other (other _), below⟩, ⟨rs, rising'.other (other _), below'⟩,
    ⟨shares, waiting, shared.other (other _), records, marked⟩, p.depositsScanned,
    p.registryScanned⟩

/-- A scan is taken in by `e.absorb h records`, or passed over because `h` was taken in before. -/
theorem Passing.absorb (p : Passing start deposited registered e es scans) (h : UInt64)
    (records : List StakerRecord) :
    Passing start deposited registered (e.absorb h records) es
      (scans ++ [⟨h, records⟩]) := by
  obtain ⟨shares, waiting, shared, held, marked⟩ := p.shares
  have longer : scans.length ≤ (scans ++ [Scan.mk h records]).length := by simp
  refine ⟨p.deposits, p.registry, ?_, Nat.le_trans p.depositsScanned longer,
    Nat.le_trans p.registryScanned longer⟩
  cases accepts : e.accepts h with
  | false =>
    rw [OpenEpoch.absorb_of_not_accepts records accepts]
    exact ⟨shares, waiting, shared.pass _, held, marked⟩
  | true =>
    -- the mark is at least every height that was taken in, and the new one lies above it
    have later : ∀ s ∈ shares.flatten ++ waiting, s.height < h := by
      intro s member
      obtain ⟨m, mark, le⟩ := marked s member
      unfold OpenEpoch.accepts at accepts
      rw [mark] at accepts
      exact UInt64.lt_of_le_of_lt le (of_decide_eq_true accepts)
    rw [OpenEpoch.absorb_of_accepts records accepts]
    refine ⟨shares, waiting ++ [Scan.mk h records], shared.absorb later, ?_, ?_⟩
    · rw [List.flatMap_append, ← held]
      simp
    · intro s member
      rw [← List.append_assoc] at member
      refine ⟨h, rfl, ?_⟩
      rcases List.mem_append.mp member with early | here
      · exact UInt64.le_of_lt (later s early)
      · rw [List.mem_singleton.mp here]
        exact UInt64.le_refl h

theorem below_concat {js : List Nat} {k : Nat} (below : ∀ j ∈ js, j < k) :
    ∀ j ∈ js ++ [k], j < k + 1 :=
  List.forall_mem_append.mpr ⟨fun j early => Nat.lt_succ_of_lt (below j early),
    List.forall_mem_singleton.mpr (Nat.lt_succ_self k)⟩

/-- The deposits that wait go out at `placeAfter start k`, and `deposited` becomes `k + 1`. -/
theorem Passing.flush {k : Nat} (p : Passing start k registered e es scans)
    (scanned : k < scans.length) :
    Passing start (k + 1) registered e.emptied
      (es ++ [.accepted .deposits (placeAfter start k) (Ranking.top e.records)]) scans := by
  obtain ⟨ds, rising, below⟩ := p.deposits
  obtain ⟨rs, rising', below'⟩ := p.registry
  obtain ⟨shares, waiting, shared, held, marked⟩ := p.shares
  refine ⟨⟨ds ++ [k], rising.accept below _, ?_⟩, ⟨rs, rising'.other rfl, below'⟩, ?_, scanned,
    p.registryScanned⟩
  · exact below_concat below
  · refine ⟨shares ++ [waiting], [], held ▸ shared.flush _, rfl, fun s member => marked s ?_⟩
    simpa using member

/-- The registry goes out there, and `registered` becomes `k + 1`. -/
theorem Passing.tell {k : Nat} (p : Passing start deposited k e es scans)
    (scanned : k < scans.length) (payload : List StakerRecord) :
    Passing start deposited (k + 1) e
      (es ++ [.accepted .registry (placeAfter start k) payload]) scans := by
  obtain ⟨ds, rising, below⟩ := p.deposits
  obtain ⟨rs, rising', below'⟩ := p.registry
  obtain ⟨shares, waiting, shared, held, marked⟩ := p.shares
  refine ⟨⟨ds, rising.other rfl, below⟩, ⟨rs ++ [k], rising'.accept below' _, ?_⟩,
    ⟨shares, waiting, shared.other rfl, held, marked⟩, p.depositsScanned, scanned⟩
  exact below_concat below'

/-- The bounds `deposited` and `registered` may be raised up to `scans.length`. -/
theorem Passing.mono (p : Passing start deposited registered e es scans) {deposited' registered' : Nat}
    (le : deposited ≤ deposited') (scanned : deposited' ≤ scans.length)
    (le' : registered ≤ registered') (scanned' : registered' ≤ scans.length) :
    Passing start deposited' registered' e es scans := by
  obtain ⟨ds, rising, below⟩ := p.deposits
  obtain ⟨rs, rising', below'⟩ := p.registry
  exact ⟨⟨ds, rising, fun j member => Nat.lt_of_lt_of_le (below j member) le⟩,
    ⟨rs, rising', fun j member => Nat.lt_of_lt_of_le (below' j member) le'⟩, p.shares, scanned,
    scanned'⟩

/-! ## §4. A visit of a height, call by call -/

/-- Anything may be answered, except that no failure of the checkpoint may pass. -/
abbrev FatalStep : Surroundings Chronicle := Chronicle.follows fun _ x =>
  ∀ q failure, x = ⟨.checkpoint q, .error failure⟩ → failure.isTransient = false

/-- What every exchange leaves behind. -/
abbrev OnceStep (start : UInt64) : Surroundings Chronicle :=
  fun _ _ c' => Once start c'.effects c'.scans

/-- The invariant of the loop in an account. -/
def OnceAt (start : UInt64) (e : OpenEpoch) (h : UInt64) (c : Chronicle) : Prop :=
  OnceTop start e h c.effects c.scans

/-- A step without an effect leaves `effects` as it is. -/
theorem effects_quiet {c c' : Chronicle} {x : Exchange} (step : FatalStep c x c')
    (quiet : c.effectOf x = none) : c'.effects = c.effects := by
  rw [step.2, Chronicle.effects_after, quiet]
  exact List.append_nil _

/-- A request without an effect that opens no visit keeps the invariant of the loop. -/
theorem calm_onceAt (e : OpenEpoch) (h : UInt64) (r : Request)
    (quiet : ∀ c reply, Chronicle.effectOf c ⟨r, reply⟩ = none)
    (goesOn : r.opensVisit = false) :
    FatalStep.Calm (OnceStep start) (OnceAt start e h) r := by
  intro c reply c' top step
  have same := effects_quiet step (quiet c reply)
  have scans : c'.scans = c.scans := by rw [step.2, Chronicle.scans_after c goesOn]
  have top' : OnceAt start e h c' := by
    unfold OnceAt
    rw [same, scans]
    exact top
  exact ⟨OnceTop.once top', top'⟩

/-- The visit of a boundary whose deposits are out of the way. -/
structure Settled (start : UInt64) (k : Nat) (e : OpenEpoch) (registered : Nat) (c : Chronicle) :
    Prop where
  passing : Passing start (k + 1) registered e c.effects c.scans
  place : c.height = placeAfter start k
  cleared : e.Cleared (placeAfter start k)

/-- A boundary whose deposits are out of the way is one that may be tried again (`OnceAt`). -/
theorem Settled.top {k : Nat} {c : Chronicle} (s : Settled start k e k c) :
    OnceAt start e (placeAfter start k) c := ⟨k, rfl, .inr ⟨s.passing, s.cleared⟩⟩

/-- With the registry told too, the loop goes on at the next height, `placeAfter start k + 1`. -/
theorem Settled.next {k : Nat} {c : Chronicle} (s : Settled start k e (k + 1) c) :
    OnceAt start e (placeAfter start k + 1) c :=
  ⟨k + 1, placeAfter_succ start k, .inl s.passing⟩

/-- An exchange that is no accepted update leaves the boundary `Settled`. -/
theorem Settled.other {k : Nat} {c c' : Chronicle} {x : Exchange}
    (s : Settled start k e registered c) (step : FatalStep c x c')
    (goesOn : x.request.opensVisit = false)
    (other : ∀ purpose, acceptedFor purpose (c.effectOf x).toList = []) :
    Settled start k e registered c' := by
  obtain ⟨-, rfl⟩ := step
  refine ⟨?_, ?_, s.cleared⟩
  · rw [Chronicle.effects_after, Chronicle.scans_after c goesOn]
    exact s.passing.other other
  · rw [(Chronicle.visit_after c goesOn).1, s.place]

/-- The registry half of a boundary, `commitRegistry`, tells the registry once and goes on, or
    leaves the boundary to be tried again. -/
theorem conducts_commit_once {schedule : Schedule} {k : Nat} {c : Chronicle}
    (s : Settled start k e k c) :
    (schedule.commitRegistry (placeAfter start k)).run.Conducts FatalStep (OnceStep start)
      (fun outcome c =>
        match outcome with
        | .ok _ => OnceAt start e (placeAfter start k + 1) c
        | .error failure => failure.isTransient = true → OnceAt start e (placeAfter start k) c)
      c := by
  have ask : ∀ r, Chronicle.Silent r → FatalStep.Calm (OnceStep start)
      (fun c => Settled start k e k c ∧ c.purpose = .registry) r := by
    intro r silent c reply c' given
    obtain ⟨s, purpose⟩ := given
    intro step
    have s' := s.other step silent.goesOn fun _ => by rw [silent.quiet]; rfl
    refine ⟨s'.passing.once, s', ?_⟩
    rw [step.2, silent.purpose_after, purpose]
  refine Schedule.conducts_commitRegistry
    (R := Walk.Ranked) (A := fun _ c => Settled start k e k c ∧ c.purpose = .registry)
    (B := fun c => Settled start k e k c ∧ c.purpose = .registry)
    (C := fun _ _ c => Settled start k e k c ∧ c.purpose = .registry)
    (D := fun _ _ => Settled start k e (k + 1)) (E := fun _ _ => Settled start k e (k + 1))
    ?size ?visited ?read ?skip ?submit ?saveTop ?saveCursor
  case size =>
    intro reply c' step
    -- the size may be asked for again and again: asking tells nobody
    have s' := s.other step rfl fun _ => rfl
    refine ⟨s'.passing.once, ?_⟩
    cases reply with
    | error failure => exact fun _ => s'.top
    | ok size => exact ⟨s', by rw [step.2]; rfl⟩
  case visited =>
    intro size w held
    exact Walk.conducts_ranked _ size (fun r asks => ask r asks.silent) held
  case read =>
    intro top c reply c' _ held step
    obtain ⟨allowed, held⟩ :=
      ask _ Chronicle.silent_readSnapshot c reply c' held step
    refine ⟨allowed, ?_⟩
    cases reply with
    | error failure => exact fun _ => held.1.top
    | ok last => exact held
  case skip =>
    intro top last c _ given
    obtain ⟨s, -⟩ := given
    have scanned := s.passing.depositsScanned
    exact ⟨s.passing.mono (Nat.le_refl _) scanned (Nat.le_succ k) scanned, s.place, s.cleared⟩
  case submit =>
    intro top last c reply c' _ given
    obtain ⟨s, purpose⟩ := given
    intro step
    cases reply with
    | error failure =>
      have s' := s.other step rfl fun _ => rfl
      -- a refused registry update ends the run
      exact ⟨s'.passing.once, Failure.fatal_elim (Schedule.asSubmission_fatal failure)⟩
    | ok _ =>
      have s' : Settled start k e (k + 1) c' := by
        have goesOn : (Request.submit ⟨updateCall, top ++ Departure.departed last top⟩).opensVisit =
            false := rfl
        obtain ⟨-, rfl⟩ := step
        refine ⟨?_, ?_, s.cleared⟩
        · rw [Chronicle.effects_after, Chronicle.scans_after c goesOn, Chronicle.effectOf, s.place,
            purpose]
          exact s.passing.tell s.passing.depositsScanned _
        · rw [(Chronicle.visit_after c goesOn).1, s.place]
      exact ⟨s'.passing.once, s'⟩
  case saveTop =>
    intro top last c reply c' _ s step
    have s' : Settled start k e (k + 1) c' :=
      s.other step rfl fun _ => by cases reply <;> rfl
    refine ⟨s'.passing.once, ?_⟩
    cases reply with
    -- so does a refused write, which is why the registry never goes out a second time
    | error failure => exact Failure.fatal_elim (step.1 _ _ rfl)
    | ok _ => exact s'
  case saveCursor =>
    intro top last c reply c' s step
    have s' : Settled start k e (k + 1) c' :=
      s.other step rfl fun _ => by cases reply <;> rfl
    refine ⟨s'.passing.once, ?_⟩
    cases reply with
    | error failure => exact Failure.fatal_elim (step.1 _ _ rfl)
    | ok _ => exact s'.next

/-- The visit of a height whose block was scanned. -/
structure Scanned (start : UInt64) (k : Nat) (e : OpenEpoch) (c : Chronicle) : Prop where
  state : Passing start k k e c.effects c.scans ∨
    (Passing start (k + 1) k e c.effects c.scans ∧ e.records = [])
  passed : e.accepts (placeAfter start k) = false
  scanned : k < c.scans.length
  place : c.height = placeAfter start k
  purpose : c.purpose = .deposits

theorem Scanned.once {k : Nat} {c : Chronicle} (s : Scanned start k e c) :
    Once start c.effects c.scans := by
  rcases s.state with p | ⟨p, -⟩
  · exact p.once
  · exact p.once

/-- A block that was read whole is taken in or passed over, and the height is `Scanned`. -/
theorem OnceTop.scanned {k : Nat} {c c' : Chronicle} {records : List StakerRecord}
    (top : Passing start k k e c.effects c.scans ∨
      (Passing start (k + 1) k e c.effects c.scans ∧ e.Cleared (placeAfter start k)))
    (effects : c'.effects = c.effects)
    (scans : c'.scans = c.scans ++ [⟨placeAfter start k, records⟩])
    (place : c'.height = placeAfter start k) (purpose : c'.purpose = .deposits) :
    Scanned start k (e.absorb (placeAfter start k) records) c' := by
  refine ⟨?_, OpenEpoch.not_accepts_absorb _ _ _, ?_, place, purpose⟩
  · rw [effects, scans]
    -- after a flush the block is scanned again, but its mark keeps it out
    rcases top with p | ⟨p, empty, passed⟩
    · exact .inl (p.absorb _ _)
    · refine .inr ⟨p.absorb _ _, ?_⟩
      rw [OpenEpoch.absorb_of_not_accepts records passed, empty]
  · have : k ≤ c.scans.length := by
      rcases top with p | ⟨p, -⟩
      · exact p.depositsScanned
      · exact p.registryScanned
    rw [scans, List.length_append]
    exact Nat.lt_succ_of_le this

/-- The deposit half of a boundary leaves it `Settled`, or to be tried again. -/
theorem conducts_flush_once {k : Nat} {c : Chronicle} (s : Scanned start k e c) :
    (Schedule.flush e).Conducts FatalStep (OnceStep start)
      (fun flushed c =>
        match flushed with
        | (.ok _, e) => Settled start k e k c
        | (.error failure, _) => failure.isTransient = false) c := by
  refine Schedule.conducts_flush (fun none => ?_) fun some reply c' step => ?_
  -- without records the height is skipped, and nothing may go out there any more
  · have passing : Passing start (k + 1) k e c.effects c.scans := by
      rcases s.state with p | ⟨p, -⟩
      · exact p.mono (Nat.le_succ k) s.scanned (Nat.le_refl k) p.registryScanned
      · exact p
    exact ⟨passing, s.place, none, s.passed⟩
  · have p : Passing start k k e c.effects c.scans := by
      -- records are left only if nothing went out at this height
      rcases s.state with p | ⟨-, none⟩
      · exact p
      · exact absurd none some
    have goesOn : (Request.submit ⟨updateCall, Ranking.top e.records⟩).opensVisit = false := rfl
    obtain ⟨-, rfl⟩ := step
    cases reply with
    | error failure =>
      refine ⟨?_, Schedule.asSubmission_fatal failure⟩
      show Once start (c.after _).effects (c.after _).scans
      rw [Chronicle.effects_after, Chronicle.scans_after c goesOn]
      exact (p.other fun _ => rfl).once
    | ok _ =>
      have settled : Settled start k e.emptied k
          (c.after ⟨.submit ⟨updateCall, Ranking.top e.records⟩, .ok ()⟩) := by
        refine ⟨?_, ?_, rfl, s.passed⟩
        · rw [Chronicle.effects_after, Chronicle.scans_after c goesOn, Chronicle.effectOf, s.place,
            s.purpose]
          exact p.flush s.scanned
        · rw [(Chronicle.visit_after c goesOn).1, s.place]
      exact ⟨settled.passing.once, settled⟩

/-- The work at a height keeps the invariant `OnceAt` of the loop, unless it ends the run. -/
theorem conducts_work_once {scanner : Scanner} {schedule : Schedule} {c : Chronicle}
    (top : OnceAt start e h c) :
    (Follower.work scanner schedule h e).Conducts FatalStep (OnceStep start)
      (fun done c =>
        match done.1 with
        | .ok _ => OnceAt start done.2 (h + 1) c
        | .error failure => failure.isTransient = true → OnceAt start done.2 h c) c := by
  obtain ⟨k, rfl, state⟩ := top
  refine Follower.conducts_work fun reply c' step => ?_
  have effects : c'.effects = c.effects := effects_quiet step rfl
  obtain ⟨-, account⟩ := step
  have scans : c'.scans = c.scans ++ Scan.ofReply (placeAfter start k) reply := by
    rw [account]
    rfl
  -- a block that was not read whole leaves the invariant as it was
  have unread : Scan.ofReply (placeAfter start k) reply = [] →
      OnceAt start e (placeAfter start k) c' := by
    intro none
    rw [none, List.append_nil] at scans
    unfold OnceAt
    rw [effects, scans]
    exact ⟨k, rfl, state⟩
  cases reply with
  | error failure =>
    have top' := unread rfl
    exact ⟨OnceTop.once top', fun _ => top'⟩
  | ok logs =>
    simp only
    cases decoded : Scanner.decodeFrom (placeAfter start k) 0 logs with
    | error failure =>
      have top' := unread (Scan.ofReply_broken decoded)
      exact ⟨OnceTop.once top', fun _ => top'⟩
    | ok events =>
      have scanned : Scanned start k
          (e.absorb (placeAfter start k) (events.map DepositEvent.toRecord)) c' := by
        refine OnceTop.scanned state effects ?_ (by rw [account]; rfl) (by rw [account]; rfl)
        exact scans.trans (congrArg (c.scans ++ ·) (Scan.ofReply_whole decoded))
      refine ⟨scanned.once, ?_⟩
      by_cases boundary : schedule.isBoundary (placeAfter start k) = true
      · simp only [if_pos boundary]
        refine Schedule.conducts_settle ((conducts_flush_once scanned).mono ?_)
        intro done
        obtain ⟨flushed, e'⟩ := done
        intro c'' held
        cases flushed with
        | error failure => exact Failure.fatal_elim held
        | ok n =>
          refine (conducts_commit_once held).mono ?_
          intro outcome last held
          cases outcome with
          | error failure => exact held
          | ok counts => exact held
      · simp only [if_neg boundary]
        refine ⟨k + 1, placeAfter_succ start k, .inl ?_⟩
        have longer := scanned.scanned
        rcases scanned.state with p | ⟨p, -⟩
        · exact p.mono (Nat.le_succ k) longer (Nat.le_succ k) longer
        · exact p.mono (Nat.le_refl _) longer (Nat.le_succ k) longer

/-! ## §5. Runs -/

/-- Nothing is submitted twice: at any moment of a run of a new follower, whose checkpoint never
    fails in a way that may pass (`isTransient`),
      * each height has at most one accepted deposit update and at most one accepted registry
        update, as long as the run is too short for the heights to wrap around (`t.length ≤ 2 ^
        64`);
      * every accepted deposit update carries a share of the scans of the run (`Chronicle.scans`);
        no scan is in two shares, nor are two scans of one height. -/
theorem nothing_submitted_twice {settings : FollowerSettings} {scanner : Scanner}
    {schedule : Schedule} {n : Nat} {t : List Exchange} {d : Dialogue Follower.Run}
    (path : Path (Follower.run n (.ofSettings settings scanner schedule)) t d)
    (fatal : ∀ q failure, ⟨.checkpoint q, .error failure⟩ ∈ t → failure.isTransient = false) :
    (t.length ≤ 2 ^ 64 →
      ((acceptedFor .deposits (effects t)).map Prod.fst).Nodup ∧
        ((acceptedFor .registry (effects t)).map Prod.fst).Nodup) ∧
      ∃ shares : List (List Scan),
        (acceptedFor .deposits (effects t)).map Prod.snd = shares.map Scan.payload ∧
        shares.flatten.Sublist (Chronicle.of t).scans ∧
        (shares.flatten.map Scan.height).Nodup := by
  have once : Once settings.start (effects t) (Chronicle.of t).scans := by
    have conducts : (Follower.run n (.ofSettings settings scanner schedule)).Conducts FatalStep
        (OnceStep settings.start) (fun _ _ => True) .blank := by
      refine Follower.conducts_run (Follower.conducts_turns (J := OnceAt settings.start)
        ?asked ?polled ?paused ?worked n _ rfl rfl _ ?start)
      case asked => exact fun e h => calm_onceAt e h _ (fun _ _ => rfl) rfl
      case polled => exact fun e h => calm_onceAt e h _ (fun _ _ => rfl) rfl
      case paused => exact fun e h ms => calm_onceAt e h _ (fun _ _ => rfl) rfl
      case worked => exact fun e h c top => conducts_work_once top
      case start => exact ⟨0, by simp [placeAfter, Follower.ofSettings], .inl passing_fresh⟩
    have through : FatalStep.Through .blank t (.of t) := by
      refine Chronicle.through_follows fun pre x post whole q failure here => fatal q failure ?_
      rw [whole, here]
      simp
    exact (conducts.path path through).1.keeps (I := fun c => Once settings.start c.effects c.scans)
      (fun _ _ _ _ step => step) passing_fresh.once
  obtain ⟨e, deposited, registered, ⟨ds, rising, below⟩, ⟨rs, rising', below'⟩,
    ⟨shares, waiting, shared, -, -⟩, scanned, scanned'⟩ := once
  -- every update stands behind a scan of its own, so there are fewer heights than exchanges
  have few := Chronicle.length_scans_le t
  refine ⟨fun short => ⟨?_, ?_⟩, shares, shared.payloads, ?_, ?_⟩
  · rw [rising.places]
    refine nodup_places rising.rising fun j member => ?_
    have := below j member
    omega
  · rw [rising'.places]
    refine nodup_places rising'.rising fun j member => ?_
    have := below' j member
    omega
  · exact (List.sublist_append_left _ _).trans shared.among
  · rw [List.Nodup, List.pairwise_map]
    refine (List.pairwise_append.mp shared.rising).1.imp fun less same => ?_
    rw [same] at less
    exact UInt64.lt_irrefl _ less

/-- A boundary that is tried again has one deposit update. -/
theorem retried_boundary_submits_once :
    (acceptedFor .deposits (effects Session.retriedRound)).map Prod.fst = [0] ∧
      ((acceptedFor .deposits (effects Session.retriedRound)).map Prod.fst).Nodup := by
  refine ⟨rfl, ?_⟩
  have path : ∃ d, Path (Follower.run 2 (.ofSettings Session.shortSettings Session.shortScanner
      Session.shortSchedule)) Session.retriedRound d := by
    apply Exists.intro
    with_unfolding_all
      iterate 13 apply Path.step
      apply Path.here
  obtain ⟨d, path⟩ := path
  have kept : Keeping.volatile.goes.Through .empty Session.retriedRound Session.shortKept := by
    iterate 13 refine .step (by first | exact .inl rfl | rfl) ?_
    exact .here _
  exact ((nothing_submitted_twice path (Storing.fatal_through _ kept)).1 (by decide)).1

end StakeRelay
