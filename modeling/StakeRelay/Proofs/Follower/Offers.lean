/-
  StakeRelay.Proofs.Follower.Offers — every update that a round offers.

  A round offers at most two updates to the destination, that of the deposits and that of the
  registry. Here it is said of each of them what was asked in the round before it, what it
  carries, and what its refusal leads to. A refused update is the last that is asked in the
  round.

  Main statement: `Follower.TurnPath.offers`.
-/

import StakeRelay.Proofs.Follower.Rounds

namespace StakeRelay

/-! ## §1. Updates among exchanges -/

/-- Whether an update is offered. -/
def Request.offers : Request → Bool
  | .submit _ => true
  | _ => false

/-- Of each update among the exchanges `P` holds: of the update, of the answer to it, and of
    the exchanges before and behind it. -/
def EachOffer (P : Update → Except Failure Unit → List Exchange → List Exchange → Prop)
    (t : List Exchange) : Prop :=
  ∀ front update reply rest, t = front ++ ⟨.submit update, reply⟩ :: rest →
    P update reply front rest

namespace EachOffer

variable {P Q R : Update → Except Failure Unit → List Exchange → List Exchange → Prop}
  {t u : List Exchange}

theorem of_none (none : ∀ x ∈ t, x.request.offers = false) : EachOffer P t := by
  intro front update reply rest whole
  cases none ⟨.submit update, reply⟩ (whole ▸ List.mem_append_right _ List.mem_cons_self)

theorem single {update : Update} {reply : Except Failure Unit} (holds : P update reply [] []) :
    EachOffer P [⟨.submit update, reply⟩] := by
  intro front update' reply' rest whole
  cases front with
  | nil =>
    cases whole
    exact holds
  | cons x front => simp at whole

theorem append (first : EachOffer P t) (second : EachOffer Q u)
    (early : ∀ update reply front rest, P update reply front rest →
      R update reply front (rest ++ u))
    (late : ∀ update reply front rest, Q update reply front rest →
      R update reply (t ++ front) rest) : EachOffer R (t ++ u) := by
  intro front update reply rest whole
  rcases cons_split whole.symm with ⟨a, rfl, rfl⟩ | ⟨a, rfl, rfl⟩
  · exact late _ _ _ _ (second a update reply rest rfl)
  · exact early _ _ _ _ (first front update reply a rfl)

/-- What is asked before and is no update leaves `EachOffer` to what follows. -/
theorem behind (second : EachOffer Q u) (none : ∀ x ∈ t, x.request.offers = false)
    (late : ∀ update reply front rest, Q update reply front rest →
      R update reply (t ++ front) rest) : EachOffer R (t ++ u) :=
  append (P := fun _ _ _ _ => False) (of_none none) second (fun _ _ _ _ => False.elim) late

end EachOffer

/-! ## §2. The updates of a boundary -/

/-- What was asked at a boundary before the given update was offered, and the open epoch
    then. -/
inductive Schedule.Offered (s : Schedule) (e : OpenEpoch) :
    OpenEpoch → Update → List Exchange → Prop
  /-- The update carries the deposits of the epoch, for which nothing is asked. -/
  | deposits (some : e.records ≠ []) : Offered s e e ⟨updateCall, Ranking.top e.records⟩ []
  /-- The update carries the registry. The deposits were flushed, if there were any, and the
      registry and the committed top were read. -/
  | registry {u v : List Exchange} {n : Nat} {e' : OpenEpoch} {last top : List StakerRecord}
      (flush : FlushPath e u (.ok n, e')) (reads : s.walk.Reads top v)
      (some : Departure.update last top ≠ []) :
      Offered s e e' ⟨updateCall, Departure.update last top⟩
        (u ++ (v ++ [⟨.checkpoint .readSnapshot, .ok last⟩]))

theorem Walk.Reads.unsent {w : Walk} {top : List StakerRecord} {t : List Exchange}
    (reads : w.Reads top t) : ∀ x ∈ t, x.request.offers = false :=
  reads.forall_mem (fun _ => rfl) (fun _ _ => rfl) fun _ _ => rfl

namespace Schedule

variable {s : Schedule} {h : UInt64} {e : OpenEpoch} {t : List Exchange}

/-- The update of the deposits (`FlushPath`). -/
theorem FlushPath.offers {done : Except Failure Nat × OpenEpoch} (path : FlushPath e t done) :
    EachOffer (fun update reply front rest => s.Offered e e update front ∧
      ∀ failure, reply = .error failure → rest = [] ∧ done = (.error (asSubmission failure), e))
      t := by
  cases path with
  | nothing => exact .of_none (List.forall_mem_nil _)
  | refused some failure =>
    refine .single ⟨.deposits some, fun failure' same => ?_⟩
    cases same
    exact ⟨rfl, rfl⟩
  | flushed some => exact .single ⟨.deposits some, nofun⟩

/-- The update of the registry, and what was asked since the flush. -/
def Told (s : Schedule) (update : Update) (front : List Exchange) : Prop :=
  ∃ last top v, s.walk.Reads top v ∧ Departure.update last top ≠ [] ∧
    update = ⟨updateCall, Departure.update last top⟩ ∧
    front = v ++ [⟨.checkpoint .readSnapshot, .ok last⟩]

/-- An update behind the registry and the committed top: `Departure.update last top`. -/
theorem offers_told {last top : List StakerRecord} {v : List Exchange}
    (reads : s.walk.Reads top v) (some : Departure.update last top ≠ [])
    (answer : Except Failure Unit) :
    EachOffer (fun update reply front rest => s.Told update front ∧ reply = answer ∧ rest = [])
      (v ++ [⟨.checkpoint .readSnapshot, .ok last⟩,
        ⟨.submit ⟨updateCall, Departure.update last top⟩, answer⟩]) := by
  rw [List.append_cons]
  refine EachOffer.behind (Q := fun update reply front rest =>
    update = ⟨updateCall, Departure.update last top⟩ ∧ front = [] ∧ reply = answer ∧ rest = [])
    (.single ⟨rfl, rfl, rfl, rfl⟩) (List.forall_mem_append.mpr
      ⟨reads.unsent, List.forall_mem_singleton.mpr rfl⟩) ?_
  rintro update reply front rest ⟨rfl, rfl, answered⟩
  exact ⟨⟨last, top, v, reads, some, rfl, List.append_nil _⟩, answered⟩

theorem Tells.offers {last top : List StakerRecord} (tells : s.Tells last top t) :
    EachOffer (fun update reply front _ => s.Told update front ∧ reply = .ok ()) t := by
  cases tells with
  | nothing reads =>
    exact .of_none (List.forall_mem_append.mpr
      ⟨reads.unsent, List.forall_mem_singleton.mpr rfl⟩)
  | told reads some =>
    intro front update reply rest whole
    obtain ⟨told, accepted, -⟩ := offers_told reads some (.ok ()) front update reply rest whole
    exact ⟨told, accepted⟩

/-- The update of the registry (`CommitPath`). -/
theorem CommitPath.offers {outcome : Except Failure (Nat × Nat)}
    (path : s.CommitPath h t outcome) :
    EachOffer (fun update reply front rest => s.Told update front ∧
      ∀ failure, reply = .error failure → rest = [] ∧ outcome = .error (asSubmission failure))
      t := by
  -- behind an accepted update come writes only
  have written {last top : List StakerRecord} {t u : List Exchange} (tells : s.Tells last top t)
      (none : ∀ x ∈ u, x.request.offers = false) :
      EachOffer (fun update reply front rest => s.Told update front ∧
        ∀ failure, reply = .error failure → rest = [] ∧ outcome = .error (asSubmission failure))
        (t ++ u) := by
    refine tells.offers.append (Q := fun _ _ _ _ => False) (.of_none none) ?_
      fun _ _ _ _ => False.elim
    rintro update reply front rest ⟨told, rfl⟩
    exact ⟨told, nofun⟩
  cases path with
  | unsized failure => exact .of_none (List.forall_mem_singleton.mpr rfl)
  | unread reads failure =>
    exact .of_none (List.forall_mem_append.mpr
      ⟨reads.unsent, List.forall_mem_singleton.mpr rfl⟩)
  | refused reads some failure =>
    intro front update reply rest whole
    obtain ⟨told, rfl, last⟩ := offers_told reads some (.error failure) front update reply rest whole
    refine ⟨told, fun failure' same => ?_⟩
    cases same
    exact ⟨last, rfl⟩
  | unsaved tells failure => exact written tells (List.forall_mem_singleton.mpr rfl)
  | unmarked tells failure =>
    exact written tells (List.forall_mem_cons.mpr ⟨rfl, List.forall_mem_singleton.mpr rfl⟩)
  | committed tells =>
    exact written tells (List.forall_mem_cons.mpr ⟨rfl, List.forall_mem_singleton.mpr rfl⟩)

/-- Behind a flush that came through, the update of the deposits was not refused, and that of the
    registry is the one that may be. -/
theorem offers_behind_flush {u v : List Exchange} {n : Nat} {e' : OpenEpoch}
    {outcome : Except Failure (Nat × Nat)} {done : Except Failure BoundaryReport × OpenEpoch}
    (flush : FlushPath e u (.ok n, e')) (commit : s.CommitPath h v outcome)
    (ends : ∀ failure, outcome = .error (asSubmission failure) →
      done = (.error (asSubmission failure), e')) :
    EachOffer (fun update reply front rest => ∃ e', s.Offered e e' update front ∧
      ∀ failure, reply = .error failure → rest = [] ∧ done = (.error (asSubmission failure), e'))
      (u ++ v) := by
  refine (flush.offers (s := s)).append commit.offers ?_ ?_
  · rintro update reply front rest ⟨offered, refused⟩
    refine ⟨e, offered, fun failure same => ?_⟩
    cases (refused failure same).2
  · rintro update reply front rest ⟨⟨last, top, w, reads, some, rfl, rfl⟩, refused⟩
    refine ⟨e', .registry flush reads some, fun failure same => ?_⟩
    obtain ⟨none, failed⟩ := refused failure same
    exact ⟨none, ends failure failed⟩

/-- Both updates of a boundary (`SettlePath`). -/
theorem SettlePath.offers {done : Except Failure BoundaryReport × OpenEpoch}
    (path : s.SettlePath h e t done) :
    EachOffer (fun update reply front rest => ∃ e', s.Offered e e' update front ∧
      ∀ failure, reply = .error failure → rest = [] ∧ done = (.error (asSubmission failure), e'))
      t := by
  -- an update is offered in the first half or, behind a flush that came through, in the second
  cases path with
  | unflushed flush =>
    cases flush with
    | refused some failure =>
      refine .single ⟨e, .deposits some, fun failure' same => ?_⟩
      cases same
      exact ⟨rfl, rfl⟩
  | uncommitted flush commit =>
    refine offers_behind_flush flush commit fun failure same => ?_
    injection same with same
    rw [same]
  | settled flush commit => exact offers_behind_flush flush commit nofun

end Schedule

/-! ## §3. The updates of a round -/

namespace Follower

/-- What a follower asked in the round in which it offered the given update, and the open
    epoch then. -/
inductive Attempted (f : Follower) (e : OpenEpoch) : Update → List Exchange → Prop
  | intro {head : UInt64} {logs : List RawLog} {events : List DepositEvent} {update : Update}
      {t : List Exchange} (whole : Scanner.decodeFrom f.current 0 logs = .ok events)
      (ends : f.schedule.isBoundary f.current = true)
      (offered : f.schedule.Offered (taking f.epoch f.current events) e update t) :
      Attempted f e update
        (hears head ++ ⟨.source (logsOf f.scanner f.current), .ok logs⟩ :: t)

variable {f : Follower} {s : Schedule} {h : UInt64} {e : OpenEpoch} {t : List Exchange}

theorem WorkPath.offers {scanner : Scanner}
    {done : Except Failure (Option BoundaryReport) × OpenEpoch}
    (path : WorkPath scanner s h e t done) :
    EachOffer (fun update reply front rest => ∃ logs events e' mid,
      Scanner.decodeFrom h 0 logs = .ok events ∧ s.isBoundary h = true ∧
      s.Offered (taking e h events) e' update mid ∧
      front = ⟨.source (logsOf scanner h), .ok logs⟩ :: mid ∧
      ∀ failure, reply = .error failure →
        rest = [] ∧ done = (.error (Schedule.asSubmission failure), e')) t := by
  cases path with
  | unscanned failure => exact .of_none (List.forall_mem_singleton.mpr rfl)
  | broken broken => exact .of_none (List.forall_mem_singleton.mpr rfl)
  | inside whole inside => exact .of_none (List.forall_mem_singleton.mpr rfl)
  | @boundary logs events u done whole ends settle =>
    refine settle.offers.behind (t := [_]) (List.forall_mem_singleton.mpr rfl) ?_
    rintro update reply front rest ⟨e', offered, refused⟩
    refine ⟨logs, events, e', front, whole, ends, offered, rfl, fun failure same => ?_⟩
    obtain ⟨last, rfl⟩ := refused failure same
    exact ⟨last, rfl⟩

theorem unsent_hears (head : UInt64) : ∀ x ∈ hears head, x.request.offers = false :=
  List.forall_mem_cons.mpr ⟨rfl, List.forall_mem_singleton.mpr rfl⟩

/-- An update of a round, the answer to it, and what was asked before and behind it. A refused
    one is the last, and the run ends at the height. -/
def Offering (f : Follower) (turn : Turn) (update : Update) (reply : Except Failure Unit)
    (front rest : List Exchange) : Prop :=
  ∃ e, Attempted f e update front ∧ ∀ failure, reply = .error failure → rest = [] ∧
    turn.outcome = some (.error (Schedule.asSubmission failure)) ∧
    turn.follower.current = f.current ∧ turn.follower.epoch = e

theorem FailPath.offers {failure : Failure} (fails : FailPath f t failure e) :
    EachOffer (fun update reply front rest => ∃ e', Attempted f e' update front ∧
      ∀ failure', reply = .error failure' →
        rest = [] ∧ failure = Schedule.asSubmission failure' ∧ e = e') t := by
  cases fails with
  | unheard failure =>
    exact .of_none (List.forall_mem_cons.mpr ⟨rfl, List.forall_mem_singleton.mpr rfl⟩)
  | unworked confirmed work =>
    refine work.offers.behind (unsent_hears _) ?_
    rintro update reply front rest ⟨logs, events, e', mid, whole, ends, offered, rfl, refused⟩
    refine ⟨e', .intro whole ends offered, fun failure' same => ?_⟩
    obtain ⟨last, failed⟩ := refused failure' same
    injection failed with failed taken
    injection failed with failed
    exact ⟨last, failed, taken⟩

/-- Each update of a round (`TurnPath`). -/
theorem TurnPath.offers {turn : Turn} (path : TurnPath f t turn) :
    EachOffer (Offering f turn) t := by
  cases path with
  | asked => exact .of_none (List.forall_mem_singleton.mpr rfl)
  | exhausted => exact .of_none (List.forall_mem_singleton.mpr rfl)
  | early left early =>
    exact .of_none (List.forall_mem_append.mpr
      ⟨unsent_hears _, List.forall_mem_singleton.mpr rfl⟩)
  | @passing t failure e left fails passing =>
    refine fails.offers.append (Q := fun _ _ _ _ => False) (.of_none (f.forall_pause fun _ => rfl)) ?_
      fun _ _ _ _ => False.elim
    rintro update reply front rest ⟨e', attempted, refused⟩
    refine ⟨e', attempted, fun failure' same => ?_⟩
    -- a refusal never passes
    obtain ⟨-, rfl, -⟩ := refused failure' same
    exact Failure.fatal_elim (Schedule.asSubmission_fatal failure') passing
  | fatal left fails fatal =>
    intro front update reply rest whole
    obtain ⟨e', attempted, refused⟩ := fails.offers front update reply rest whole
    refine ⟨e', attempted, fun failure' same => ?_⟩
    obtain ⟨last, rfl, rfl⟩ := refused failure' same
    exact ⟨last, rfl, rfl, rfl⟩
  | passed left confirmed work =>
    refine work.offers.behind (unsent_hears _) ?_
    rintro update reply front rest ⟨logs, events, e', mid, whole, ends, offered, rfl, refused⟩
    refine ⟨e', .intro whole ends offered, fun failure same => ?_⟩
    cases (refused failure same).2

end Follower

end StakeRelay
