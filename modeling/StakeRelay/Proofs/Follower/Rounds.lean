/-
  StakeRelay.Proofs.Follower.Rounds — all ways in which a round can go.

  A round asks one question after another, and what it comes to depends on the answers.
  Here every way through a round is written down once: the exchanges, in their order, and
  what they come to. Each function of the loop has one relation for it, with one case for
  each place at which it can end. What a run does, round after round, follows by cases on
  these relations, and no later proof opens a function of the loop again.

  A run that is cut off in the middle of a round could have gone on, since a dialogue ends
  whatever is answered. So it is the front of whole rounds.

  Main statements:
    * `Schedule.commitPath_of_path`, `Schedule.settlePath_of_path` — a boundary;
    * `Follower.turnPath_of_path` — a round;
    * `Follower.exists_rounds` — a run, wherever it is cut off;
    * `Follower.Rounds.locate` — where in which round an exchange takes place.
-/

import StakeRelay.Proofs.Follower.Outline
import StakeRelay.Proofs.Staker.Departure

namespace StakeRelay

open Chronicle (AsksEntry)
open Dialogue

/-! ## §1. Paths to an end -/

namespace Dialogue

variable {α β : Type}

/-- A dialogue that is `done a` ends at once, with `a`. -/
theorem Path.ends_done {a b : α} {t : List Exchange} (path : Path (.done a) t (.done b)) :
    t = [] ∧ b = a := by
  cases path
  exact ⟨rfl, rfl⟩

/-- A dialogue that asks `r` ends behind a reply to `r`. -/
theorem Path.ends_ask {r : Request} {next : r.Reply → Dialogue α} {t : List Exchange} {a : α}
    (path : Path (.ask r next) t (.done a)) :
    ∃ reply u, t = ⟨r, reply⟩ :: u ∧ Path (next reply) u (.done a) := by
  cases path with
  | step reply rest => exact ⟨reply, _, rfl, rest⟩

/-- A lone `request` ends with its reply. -/
theorem Path.ends_request {r : Request} {t : List Exchange} {a : r.Reply}
    (path : Path (request r) t (.done a)) : t = [⟨r, a⟩] := by
  obtain ⟨reply, u, rfl, rest⟩ := path.ends_ask
  obtain ⟨rfl, rfl⟩ := rest.ends_done
  rfl

/-- `d.bind f` ends behind an end `a` of `d`, as `f a` does. -/
theorem Path.ends_bind {d : Dialogue α} {f : α → Dialogue β} {t : List Exchange} {b : β}
    (path : Path (d.bind f) t (.done b)) :
    ∃ a u v, t = u ++ v ∧ Path d u (.done a) ∧ Path (f a) v (.done b) := by
  induction d generalizing t with
  | done a => exact ⟨a, [], t, rfl, .here _, path⟩
  | ask r next ih =>
    obtain ⟨reply, rest, rfl, later⟩ := Path.ends_ask path
    obtain ⟨a, u, v, rfl, first, second⟩ := ih reply later
    exact ⟨a, ⟨r, reply⟩ :: u, v, rfl, .step reply first, second⟩

/-- `x >>= f` ends with a failure of `x`, or behind its result `a` as `f a` does. -/
theorem Path.ends_attempt {x : Attempt α} {f : α → Attempt β} {t : List Exchange}
    {outcome : Except Failure β} (path : Path (x >>= f).run t (.done outcome)) :
    (∃ failure, Path x.run t (.done (.error failure)) ∧ outcome = .error failure) ∨
      ∃ a u v, t = u ++ v ∧ Path x.run u (.done (.ok a)) ∧ Path (f a).run v (.done outcome) := by
  rw [attempt_bind] at path
  obtain ⟨result, u, v, rfl, first, second⟩ := path.ends_bind
  cases result with
  | error failure =>
    obtain ⟨rfl, rfl⟩ := second.ends_done
    rw [List.append_nil]
    exact .inl ⟨failure, first, rfl⟩
  | ok a => exact .inr ⟨a, u, v, rfl, first, second⟩

/-- Every request can be answered. -/
theorem nonempty_reply (r : Request) : Nonempty r.Reply := by
  cases r with
  | source q => exact ⟨.error (.network .head)⟩
  | submit u => exact ⟨.ok ()⟩
  | checkpoint q => exact ⟨.error (.storage .cursorRefused)⟩
  | stopRequested => exact ⟨false⟩
  | wait ms => exact ⟨()⟩

/-- From wherever it is a dialogue `d` can come to its end. -/
theorem exists_end (d : Dialogue α) : ∃ t a, Path d t (.done a) := by
  induction d with
  | done a => exact ⟨[], a, .here _⟩
  | ask r next ih =>
    obtain ⟨reply⟩ := nonempty_reply r
    obtain ⟨t, a, path⟩ := ih reply
    exact ⟨⟨r, reply⟩ :: t, a, .step reply path⟩

end Dialogue

/-! ## §2. Boundaries -/

/-- An exchange that decides nothing about the height: it neither shows a block nor changes
    the checkpoint, and it is no failure but one of a single entry of the registry. -/
inductive Exchange.Plain : Exchange → Prop
  | signal (stop : Bool) : Plain ⟨.stopRequested, stop⟩
  | heard (head : UInt64) : Plain ⟨.source .head, .ok head⟩
  | paused (milliseconds : UInt64) : Plain ⟨.wait milliseconds, ()⟩
  | sized (size : UInt64) : Plain ⟨.source .registrySize, .ok size⟩
  | entry {x : Exchange} (asks : AsksEntry x.request) : Plain x
  | recalled (last : List StakerRecord) : Plain ⟨.checkpoint .readSnapshot, .ok last⟩
  | accepted (update : Update) : Plain ⟨.submit update, .ok ()⟩

/-- The size of the registry was told, the walk went through its entries, and the top of
    what was found is the given one. -/
inductive Walk.Reads (w : Walk) : List StakerRecord → List Exchange → Prop
  | visited {size : UInt64} {entries : List Exchange} {registry : List StakerRecord}
      (visit : Path (w.visit size 0) entries (.done registry)) :
      Reads w (Ranking.top registry) (⟨.source .registrySize, .ok size⟩ :: entries)

namespace Walk

variable {w : Walk} {top : List StakerRecord} {t : List Exchange}

/-- A walk asks for entries only, and the top of what it finds is `Ranked`. -/
theorem visit_asks {size : UInt64} {registry : List StakerRecord}
    (path : Path (w.visit size 0) t (.done registry)) :
    (∀ x ∈ t, AsksEntry x.request) ∧ Walk.Ranked (Ranking.top registry) := by
  have conducts : (w.visit size 0).Conducts recording (fun _ x _ => AsksEntry x.request)
      (fun records _ => Walk.Ranked (Ranking.top records) ∧ True) [] :=
    conducts_ranked w size (fun r asks _ _ _ _ _ => ⟨asks, trivial⟩) trivial
  obtain ⟨steps, ranked, -⟩ := conducts.path path (through_recording [] t)
  exact ⟨steps.each fun _ _ _ asks => asks, ranked⟩

/-- A top that was read is `Ranked`. -/
theorem Reads.ranked (reads : w.Reads top t) : Walk.Ranked top := by
  cases reads with
  | visited visit => exact (visit_asks visit).2

/-- Reading the registry decides nothing about the height: every exchange is `Plain`. -/
theorem Reads.plain (reads : w.Reads top t) : ∀ x ∈ t, x.Plain := by
  cases reads with
  | visited visit =>
    exact List.forall_mem_cons.mpr ⟨.sized _, fun x member => .entry ((visit_asks visit).1 x member)⟩

/-- What holds of the three questions about the registry holds of every exchange of a walk that
    `Reads` it. -/
theorem Reads.forall_mem {P : Exchange → Prop} (reads : w.Reads top t)
    (size : ∀ reply, P ⟨.source .registrySize, reply⟩)
    (staker : ∀ index reply, P ⟨.source (.stakerAt index), reply⟩)
    (balance : ∀ staker reply, P ⟨.source (.stakerInfo staker), reply⟩) : ∀ x ∈ t, P x := by
  cases reads with
  | visited visit =>
    refine List.forall_mem_cons.mpr ⟨size _, fun x member => ?_⟩
    obtain ⟨request, reply⟩ := x
    cases (visit_asks visit).1 _ member with
    | stakerAt index => exact staker index reply
    | stakerInfo address => exact balance address reply

/-- `w.build` reads the registry, or the size is not told and it fails with that. -/
theorem reads_of_path {outcome : Except Failure (List StakerRecord)}
    (path : Path w.build.run t (.done outcome)) :
    (∃ failure, t = [⟨.source .registrySize, .error failure⟩] ∧ outcome = .error failure) ∨
      ∃ registry, outcome = .ok registry ∧ w.Reads (Ranking.top registry) t := by
  rcases path.ends_attempt with ⟨failure, asked, rfl⟩ | ⟨size, u, v, rfl, asked, lifted⟩
  · exact .inl ⟨failure, asked.ends_request, rfl⟩
  · rw [attempt_lift] at lifted
    obtain ⟨registry, entries, w, rfl, walk, rest⟩ := lifted.ends_bind
    obtain ⟨rfl, rfl⟩ := rest.ends_done
    rw [asked.ends_request, List.append_nil]
    exact .inr ⟨registry, rfl, .visited walk⟩

end Walk

namespace Schedule

/-- An update is refused, which fails as `asSubmission failure`, or accepted. -/
theorem submitted_of_path {payload : List StakerRecord} {t : List Exchange}
    {outcome : Except Failure Unit} (path : Path (submitUpdate payload).run t (.done outcome)) :
    (∃ failure, t = [⟨.submit ⟨updateCall, payload⟩, .error failure⟩] ∧
        outcome = .error (asSubmission failure)) ∨
      t = [⟨.submit ⟨updateCall, payload⟩, .ok ()⟩] ∧ outcome = .ok () := by
  obtain ⟨reply, u, rfl, rest⟩ := Path.ends_ask path
  cases reply with
  | error failure =>
    obtain ⟨rfl, rfl⟩ := rest.ends_done
    exact .inl ⟨failure, rfl, rfl⟩
  | ok _ =>
    obtain ⟨rfl, rfl⟩ := rest.ends_done
    exact .inr ⟨rfl, rfl⟩

/-- The deposit half of a boundary: the exchanges and what they come to. -/
inductive FlushPath (e : OpenEpoch) : List Exchange → Except Failure Nat × OpenEpoch → Prop
  /-- There are no deposits. -/
  | nothing (none : e.records = []) : FlushPath e [] (.ok 0, e)
  /-- The destination does not accept them, and they stay. -/
  | refused (some : e.records ≠ []) (failure : Failure) :
      FlushPath e [⟨.submit ⟨updateCall, Ranking.top e.records⟩, .error failure⟩]
        (.error (asSubmission failure), e)
  /-- They are accepted and dropped. -/
  | flushed (some : e.records ≠ []) :
      FlushPath e [⟨.submit ⟨updateCall, Ranking.top e.records⟩, .ok ()⟩]
        (.ok (Ranking.top e.records).length, e.emptied)

/-- A flush that succeeds is `Plain`. -/
theorem FlushPath.plain {e e' : OpenEpoch} {t : List Exchange} {n : Nat}
    (path : FlushPath e t (.ok n, e')) : ∀ x ∈ t, x.Plain := by
  cases path with
  | nothing => exact List.forall_mem_nil _
  | flushed => exact List.forall_mem_singleton.mpr (.accepted _)

/-- The registry and the committed top were read, and the update that tells of the change
    is out of the way: it was accepted, or there is nothing to tell. -/
inductive Tells (s : Schedule) : List StakerRecord → List StakerRecord → List Exchange → Prop
  | nothing {last top : List StakerRecord} {t : List Exchange} (reads : s.walk.Reads top t)
      (none : Departure.update last top = []) :
      Tells s last top (t ++ [⟨.checkpoint .readSnapshot, .ok last⟩])
  | told {last top : List StakerRecord} {t : List Exchange} (reads : s.walk.Reads top t)
      (some : Departure.update last top ≠ []) :
      Tells s last top (t ++ [⟨.checkpoint .readSnapshot, .ok last⟩,
        ⟨.submit ⟨updateCall, Departure.update last top⟩, .ok ()⟩])

/-- So is the telling of the change (`Tells`). -/
theorem Tells.plain {s : Schedule} {last top : List StakerRecord} {t : List Exchange}
    (tells : s.Tells last top t) : ∀ x ∈ t, x.Plain := by
  cases tells with
  | nothing reads =>
    exact List.forall_mem_append.mpr ⟨reads.plain, List.forall_mem_singleton.mpr (.recalled last)⟩
  | told reads =>
    exact List.forall_mem_append.mpr ⟨reads.plain, List.forall_mem_cons.mpr
      ⟨.recalled last, List.forall_mem_singleton.mpr (.accepted _)⟩⟩

/-- The new top is `Ranked`. -/
theorem Tells.ranked {s : Schedule} {last top : List StakerRecord} {t : List Exchange}
    (tells : s.Tells last top t) : Walk.Ranked top := by
  cases tells with
  | nothing reads => exact reads.ranked
  | told reads => exact reads.ranked

/-- The registry half of a boundary: the exchanges and what they come to. -/
inductive CommitPath (s : Schedule) (height : UInt64) :
    List Exchange → Except Failure (Nat × Nat) → Prop
  /-- The size of the registry is not told. -/
  | unsized (failure : Failure) :
      CommitPath s height [⟨.source .registrySize, .error failure⟩] (.error failure)
  /-- The committed top is not told. -/
  | unread {top : List StakerRecord} {t : List Exchange} (reads : s.walk.Reads top t)
      (failure : Failure) :
      CommitPath s height (t ++ [⟨.checkpoint .readSnapshot, .error failure⟩]) (.error failure)
  /-- The destination does not accept the update. -/
  | refused {last top : List StakerRecord} {t : List Exchange} (reads : s.walk.Reads top t)
      (some : Departure.update last top ≠ []) (failure : Failure) :
      CommitPath s height (t ++ [⟨.checkpoint .readSnapshot, .ok last⟩,
        ⟨.submit ⟨updateCall, Departure.update last top⟩, .error failure⟩])
        (.error (asSubmission failure))
  /-- The checkpoint does not take the new top. -/
  | unsaved {last top : List StakerRecord} {t : List Exchange} (tells : s.Tells last top t)
      (failure : Failure) :
      CommitPath s height (t ++ [⟨.checkpoint (.writeSnapshot top), .error failure⟩])
        (.error failure)
  /-- The checkpoint takes the new top and not the cursor. -/
  | unmarked {last top : List StakerRecord} {t : List Exchange} (tells : s.Tells last top t)
      (failure : Failure) :
      CommitPath s height (t ++ [⟨.checkpoint (.writeSnapshot top), .ok ()⟩,
        ⟨.checkpoint (.writeCursor (Saturating.add height 1)), .error failure⟩]) (.error failure)
  /-- It takes both. -/
  | committed {last top : List StakerRecord} {t : List Exchange} (tells : s.Tells last top t) :
      CommitPath s height (t ++ [⟨.checkpoint (.writeSnapshot top), .ok ()⟩,
        ⟨.checkpoint (.writeCursor (Saturating.add height 1)), .ok ()⟩])
        (.ok ((Departure.update last top).length, (Departure.departed last top).length))

/-- Both halves of a boundary: the exchanges and what they come to. -/
inductive SettlePath (s : Schedule) (height : UInt64) (e : OpenEpoch) :
    List Exchange → Except Failure BoundaryReport × OpenEpoch → Prop
  /-- The deposits are not accepted, and the registry is not asked for. -/
  | unflushed {t : List Exchange} {failure : Failure} {e' : OpenEpoch}
      (flush : FlushPath e t (.error failure, e')) : SettlePath s height e t (.error failure, e')
  /-- The deposits are out of the way, and the registry half fails. -/
  | uncommitted {t u : List Exchange} {failure : Failure} {n : Nat} {e' : OpenEpoch}
      (flush : FlushPath e t (.ok n, e')) (commit : s.CommitPath height u (.error failure)) :
      SettlePath s height e (t ++ u) (.error failure, e')
  /-- Both are done. -/
  | settled {t u : List Exchange} {n submitted stopped : Nat} {e' : OpenEpoch}
      (flush : FlushPath e t (.ok n, e'))
      (commit : s.CommitPath height u (.ok (submitted, stopped))) :
      SettlePath s height e (t ++ u) (.ok ⟨height, submitted, stopped, n⟩, e')

variable {s : Schedule} {height : UInt64} {e : OpenEpoch} {t : List Exchange}

/-- `flush e` goes one of the ways of a `FlushPath`. -/
theorem flushPath_of_path {done : Except Failure Nat × OpenEpoch}
    (path : Path (flush e) t (.done done)) : FlushPath e t done := by
  unfold flush at path
  by_cases none : e.records = []
  · rw [if_pos (by rw [none]; rfl)] at path
    obtain ⟨rfl, rfl⟩ := path.ends_done
    exact .nothing none
  · rw [if_neg (by simpa using none)] at path
    obtain ⟨outcome, u, v, rfl, submit, rest⟩ := Path.ends_bind path
    rcases submitted_of_path submit with ⟨failure, rfl, rfl⟩ | ⟨rfl, rfl⟩
    all_goals obtain ⟨rfl, rfl⟩ := rest.ends_done
    · exact .refused none failure
    · exact .flushed none

/-- Behind the update come the two writes, `.writeSnapshot top` and then `.writeCursor
    (Saturating.add height 1)`. -/
theorem commitPath_of_writes {last top : List StakerRecord} {u v : List Exchange}
    {outcome : Except Failure (Nat × Nat)} (tells : s.Tells last top u)
    (path : Path (do
      Attempt.checkpoint (.writeSnapshot top)
      Attempt.checkpoint (.writeCursor (Saturating.add height 1))
      return ((Departure.update last top).length, (Departure.departed last top).length) :
        Attempt (Nat × Nat)).run v (.done outcome)) : s.CommitPath height (u ++ v) outcome := by
  rcases path.ends_attempt with ⟨failure, save, rfl⟩ | ⟨_, v₁, v₂, rfl, save, path⟩
  · rw [save.ends_request]
    exact .unsaved tells failure
  rw [save.ends_request]
  rcases path.ends_attempt with ⟨failure, mark, rfl⟩ | ⟨_, v₃, v₄, rfl, mark, path⟩
  · rw [mark.ends_request]
    exact .unmarked tells failure
  · obtain ⟨rfl, rfl⟩ := Path.ends_done path
    rw [mark.ends_request]
    exact .committed tells

/-- `s.commitRegistry height` goes one of the ways of a `CommitPath`. -/
theorem commitPath_of_path {outcome : Except Failure (Nat × Nat)}
    (path : Path (s.commitRegistry height).run t (.done outcome)) :
    s.CommitPath height t outcome := by
  unfold commitRegistry at path
  rcases path.ends_attempt with ⟨failure, built, rfl⟩ | ⟨registry, u, v, rfl, built, path⟩
  · rcases Walk.reads_of_path built with ⟨_, rfl, failed⟩ | ⟨_, whole, -⟩
    · injection failed with failed
      rw [← failed]
      exact .unsized failure
    · cases whole
  rcases Walk.reads_of_path built with ⟨_, -, failed⟩ | ⟨_, whole, reads⟩
  · cases failed
  injection whole with whole
  subst whole
  rcases path.ends_attempt with ⟨failure, read, rfl⟩ | ⟨last, v₁, v₂, rfl, read, path⟩
  · rw [read.ends_request]
    exact .unread reads failure
  rw [read.ends_request, ← List.append_assoc]
  -- an update without records is not sent
  by_cases none : Departure.update last (Ranking.top registry) = []
  · simp only [show Ranking.top registry ++ Departure.departed last (Ranking.top registry) = []
      from none, List.isEmpty_nil, if_true] at path
    refine commitPath_of_writes (.nothing reads none) ?_
    rw [none]
    exact path
  · rw [if_neg (by simpa [Departure.update] using none)] at path
    rcases path.ends_attempt with ⟨failure, submit, rfl⟩ | ⟨_, v₃, v₄, rfl, submit, writes⟩
    all_goals rcases submitted_of_path submit with ⟨failure, rfl, same⟩ | ⟨rfl, same⟩
    · injection same with same
      subst same
      rw [List.append_assoc]
      exact .refused reads none failure
    · cases same
    · cases same
    · rw [← List.append_assoc, List.append_assoc _ _ [_]]
      exact commitPath_of_writes (.told reads none) writes

/-- `s.settle height e` goes one of the ways of a `SettlePath`. -/
theorem settlePath_of_path {done : Except Failure BoundaryReport × OpenEpoch}
    (path : Path (s.settle height e) t (.done done)) : s.SettlePath height e t done := by
  unfold settle at path
  obtain ⟨⟨flushed, e'⟩, u, v, rfl, flush, path⟩ := Path.ends_bind path
  have flush := flushPath_of_path flush
  cases flushed with
  | error failure =>
    obtain ⟨rfl, rfl⟩ := path.ends_done
    rw [List.append_nil]
    exact .unflushed flush
  | ok n =>
    obtain ⟨outcome, v₁, v₂, rfl, commit, path⟩ := Path.ends_bind path
    have commit := commitPath_of_path commit
    cases outcome with
    | error failure =>
      obtain ⟨rfl, rfl⟩ := path.ends_done
      rw [List.append_nil]
      exact .uncommitted flush commit
    | ok counts =>
      obtain ⟨rfl, rfl⟩ := path.ends_done
      rw [List.append_nil]
      exact .settled flush commit

end Schedule

/-! ## §3. Rounds -/

namespace Follower

/-- The query for the logs of a block. -/
def logsOf (scanner : Scanner) (height : UInt64) : SourceQuery :=
  .logs (.ofBlock scanner.contract scanner.topic height)

/-- The open epoch behind a block with the given deposits. -/
def taking (e : OpenEpoch) (height : UInt64) (events : List DepositEvent) : OpenEpoch :=
  e.absorb height (events.map DepositEvent.toRecord)

/-- The work at a height: the exchanges and what they come to. -/
inductive WorkPath (scanner : Scanner) (schedule : Schedule) (height : UInt64) (e : OpenEpoch) :
    List Exchange → Except Failure (Option BoundaryReport) × OpenEpoch → Prop
  /-- The block is not told. -/
  | unscanned (failure : Failure) : WorkPath scanner schedule height e
      [⟨.source (logsOf scanner height), .error failure⟩] (.error failure, e)
  /-- One of its logs is broken. -/
  | broken {logs : List RawLog} {failure : Failure}
      (broken : Scanner.decodeFrom height 0 logs = .error failure) :
      WorkPath scanner schedule height e
        [⟨.source (logsOf scanner height), .ok logs⟩] (.error failure, e)
  /-- Its deposits are taken in, and no epoch ends there. -/
  | inside {logs : List RawLog} {events : List DepositEvent}
      (whole : Scanner.decodeFrom height 0 logs = .ok events)
      (inside : schedule.isBoundary height = false) :
      WorkPath scanner schedule height e
        [⟨.source (logsOf scanner height), .ok logs⟩] (.ok none, taking e height events)
  /-- Its deposits are taken in, and the epoch is settled. -/
  | boundary {logs : List RawLog} {events : List DepositEvent} {t : List Exchange}
      {done : Except Failure BoundaryReport × OpenEpoch}
      (whole : Scanner.decodeFrom height 0 logs = .ok events)
      (ends : schedule.isBoundary height = true)
      (settle : schedule.SettlePath height (taking e height events) t done) :
      WorkPath scanner schedule height e
        (⟨.source (logsOf scanner height), .ok logs⟩ :: t) (done.1.map some, done.2)

/-- `work scanner schedule height e` goes one of the ways of a `WorkPath`. -/
theorem workPath_of_path {scanner : Scanner} {schedule : Schedule} {height : UInt64}
    {e : OpenEpoch} {t : List Exchange}
    {done : Except Failure (Option BoundaryReport) × OpenEpoch}
    (path : Path (work scanner schedule height e) t (.done done)) :
    WorkPath scanner schedule height e t done := by
  unfold work Scanner.scan at path
  obtain ⟨scanned, u, v, rfl, scan, settle⟩ := Path.ends_bind path
  rcases scan.ends_attempt with ⟨failure, asked, rfl⟩ | ⟨logs, u₁, u₂, rfl, asked, decode⟩
  · obtain ⟨rfl, rfl⟩ := settle.ends_done
    rw [asked.ends_request]
    exact .unscanned failure
  obtain ⟨rfl, rfl⟩ := Path.ends_done decode
  rw [asked.ends_request, List.append_nil]
  -- the logs were told; a block that cannot be read whole ends the work before the boundary
  cases found : Scanner.decodeFrom height 0 logs with
  | error failure =>
    rw [found] at settle
    obtain ⟨rfl, rfl⟩ := Path.ends_done settle
    exact .broken found
  | ok events =>
    rw [found] at settle
    cases ends : schedule.isBoundary height with
    | false =>
      simp only [ends, Bool.false_eq_true, if_false] at settle
      obtain ⟨rfl, rfl⟩ := Path.ends_done settle
      exact .inside found ends
    | true =>
      simp only [ends, if_true] at settle
      obtain ⟨result, v₁, v₂, rfl, both, last⟩ := Path.ends_bind settle
      obtain ⟨rfl, rfl⟩ := Path.ends_done last
      rw [List.append_nil]
      exact .boundary found ends (Schedule.settlePath_of_path both)

/-- The follower that has stopped. -/
def halted (f : Follower) : Follower := { f with phase := .stopped }

/-- The follower behind a failure that may pass. -/
def spent (f : Follower) (e : OpenEpoch) : Follower :=
  { f with epoch := e, retriesLeft := f.retriesLeft - 1 }

/-- The follower behind its height. -/
def ahead (f : Follower) (e : OpenEpoch) : Follower :=
  { f with epoch := e, current := f.current + 1, retriesLeft := f.settings.retryLimit }

/-- The pause behind a failure that may pass, if a retry is left then. -/
def pause (f : Follower) : List Exchange :=
  if 0 < f.retriesLeft - 1 then [⟨.wait f.settings.interval, ()⟩] else []

/-- No stop is requested, and the head is told. -/
def hears (head : UInt64) : List Exchange :=
  [⟨.stopRequested, false⟩, ⟨.source .head, .ok head⟩]

/-- What holds of every wait holds of `f.pause`. -/
theorem forall_pause {P : Exchange → Prop} (f : Follower) (waits : ∀ ms, P ⟨.wait ms, ()⟩) :
    ∀ x ∈ f.pause, P x := by
  unfold pause
  split
  · exact List.forall_mem_singleton.mpr (waits _)
  · exact List.forall_mem_nil _

theorem plain_pause (f : Follower) : ∀ x ∈ f.pause, x.Plain := f.forall_pause .paused

theorem plain_hears (head : UInt64) : ∀ x ∈ hears head, x.Plain :=
  List.forall_mem_cons.mpr ⟨.signal false, List.forall_mem_singleton.mpr (.heard head)⟩

/-- Where a round fails: the exchanges, the failure, and the open epoch then. -/
inductive FailPath (f : Follower) : List Exchange → Failure → OpenEpoch → Prop
  /-- The head is not told. -/
  | unheard (failure : Failure) :
      FailPath f [⟨.stopRequested, false⟩, ⟨.source .head, .error failure⟩] failure f.epoch
  /-- The work at the height fails. -/
  | unworked {head : UInt64} {t : List Exchange} {failure : Failure} {e : OpenEpoch}
      (confirmed : f.confirmedAt ≤ head)
      (work : WorkPath f.scanner f.schedule f.current f.epoch t (.error failure, e)) :
      FailPath f (hears head ++ t) failure e

/-- A round of a follower that polls: the exchanges and what they come to. -/
inductive TurnPath (f : Follower) : List Exchange → Turn → Prop
  /-- A stop is requested. -/
  | asked : TurnPath f [⟨.stopRequested, true⟩] ⟨f.halted, some (.ok ()), none⟩
  /-- No retry is left. -/
  | exhausted (none : f.retriesLeft = 0) : TurnPath f [⟨.stopRequested, false⟩]
      ⟨f.halted, some (.error (.retriesExceeded f.current f.settings.retryLimit)), Option.none⟩
  /-- The height is not yet confirmed. -/
  | early {head : UInt64} (left : f.retriesLeft ≠ 0) (early : head < f.confirmedAt) :
      TurnPath f (hears head ++ [⟨.wait f.settings.interval, ()⟩]) ⟨f, none, none⟩
  /-- It fails in a way that may pass, for which a retry is spent. -/
  | passing {t : List Exchange} {failure : Failure} {e : OpenEpoch} (left : f.retriesLeft ≠ 0)
      (fails : FailPath f t failure e) (passing : failure.isTransient = true) :
      TurnPath f (t ++ f.pause) ⟨f.spent e, none, none⟩
  /-- It fails in a way that does not pass. -/
  | fatal {t : List Exchange} {failure : Failure} {e : OpenEpoch} (left : f.retriesLeft ≠ 0)
      (fails : FailPath f t failure e) (fatal : failure.isTransient = false) :
      TurnPath f t ⟨halted { f with epoch := e }, some (.error failure), none⟩
  /-- The work at the height is done. -/
  | passed {head : UInt64} {t : List Exchange} {report : Option BoundaryReport} {e : OpenEpoch}
      (left : f.retriesLeft ≠ 0) (confirmed : f.confirmedAt ≤ head)
      (work : WorkPath f.scanner f.schedule f.current f.epoch t (.ok report, e)) :
      TurnPath f (hears head ++ t) ⟨f.ahead e, none, report⟩

section Turns

variable {f : Follower} {t : List Exchange} {turn : Turn}

/-- A phase that `permits` the change is left, the new one is entered, and nothing else changes. -/
theorem enter_of_permits {phase : Phase} (permits : f.phase.permits phase = true) :
    f.enter phase = .ok { f with phase := phase } := by
  unfold enter Phase.pass
  rw [if_pos permits]
  rfl

/-- A follower that may stop does so with the given `outcome`. -/
theorem stop_of_going {outcome : Except Failure Unit} (going : f.phase.permits .stopped = true) :
    f.stop outcome = ⟨f.halted, some outcome, none⟩ := by
  unfold stop
  rw [enter_of_permits going]
  rfl

/-- `retryAfter` spends a retry on a failure that may pass, and stops the follower with any
    other. -/
theorem turnPath_of_failure {phase : Phase} {failure : Failure} {e : OpenEpoch}
    {u : List Exchange} (polling : f.phase = .polling)
    (busy : phase = .polling ∨ phase = .processing) (left : f.retriesLeft ≠ 0)
    (fails : FailPath f t failure e)
    (path : Path (retryAfter { f with phase := phase, epoch := e } failure) u (.done turn)) :
    TurnPath f (t ++ u) turn := by
  have going : phase.permits .stopped = true ∧ phase.permits .retryWait = true := by
    rcases busy with rfl | rfl <;> exact ⟨rfl, rfl⟩
  have some : 1 ≤ f.retriesLeft :=
    UInt32.le_iff_toNat_le.mpr (Nat.one_le_iff_ne_zero.mpr fun zero =>
      left (UInt32.toNat_inj.mp zero))
  have one : min 1 f.retriesLeft = 1 := if_pos some
  unfold retryAfter at path
  -- a failure that passes costs a retry, and the pause is there only if one is left
  cases passing : failure.isTransient with
  | false =>
    rw [passing, if_neg Bool.false_ne_true, stop_of_going going.1] at path
    obtain ⟨rfl, rfl⟩ := path.ends_done
    rw [List.append_nil]
    exact .fatal left fails passing
  | true =>
    rw [passing, if_pos rfl] at path
    have waits : enter { f with phase := phase, epoch := e, retriesLeft := f.retriesLeft - 1 }
        .retryWait = .ok
          { f with phase := .retryWait, epoch := e, retriesLeft := f.retriesLeft - 1 } :=
      enter_of_permits going.2
    simp only [one, waits] at path
    have goes : goOn { f with phase := .retryWait, epoch := e, retriesLeft := f.retriesLeft - 1 }
        .polling = ⟨f.spent e, none, none⟩ := by
      unfold goOn spent
      rw [enter_of_permits (by rfl), polling]
    have spends : u = f.pause ∧ turn = ⟨f.spent e, none, none⟩ := by
      unfold pause
      split at path
      · rename_i more
        obtain ⟨_, u₁, u₂, rfl, waits, last⟩ := Path.ends_bind path
        obtain ⟨rfl, rfl⟩ := Path.ends_done last
        rw [if_pos more, waits.ends_request, List.append_nil]
        exact ⟨rfl, goes⟩
      · rename_i more
        obtain ⟨rfl, rfl⟩ := Path.ends_done path
        rw [if_neg more]
        exact ⟨rfl, goes⟩
    obtain ⟨rfl, rfl⟩ := spends
    exact .passing left fails passing

/-- A round of a follower that polls goes one of the ways of a `TurnPath`. -/
theorem turnPath_of_path (polling : f.phase = .polling) (path : Path f.turn t (.done turn)) :
    TurnPath f t turn := by
  have going : f.phase.permits .stopped = true := by rw [polling]; rfl
  unfold Follower.turn at path
  obtain ⟨stop, t₁, t₂, rfl, signal, path₂⟩ := Path.ends_bind path
  rw [signal.ends_request]
  -- the round asks one thing after another, and each reply that ends it is a case of `TurnPath`
  cases stop with
  | true =>
    obtain ⟨rfl, rfl⟩ := Path.ends_done path₂
    rw [stop_of_going going]
    exact .asked
  | false =>
  rw [if_neg Bool.false_ne_true] at path₂
  by_cases none : f.retriesLeft = 0
  · rw [if_pos none] at path₂
    obtain ⟨rfl, rfl⟩ := Path.ends_done path₂
    rw [stop_of_going going]
    exact .exhausted none
  rw [if_neg none] at path₂
  obtain ⟨heard, t₃, t₄, rfl, asks, path₃⟩ := Path.ends_bind path₂
  rw [Path.ends_request asks]
  cases heard with
  | error failure =>
    show TurnPath f ([⟨.stopRequested, false⟩, ⟨.source .head, .error failure⟩] ++ t₄) turn
    exact turnPath_of_failure polling (.inl polling) none (.unheard failure) path₃
  | ok head =>
  by_cases early : head < f.confirmedAt
  · simp only [if_pos early] at path₃
    obtain ⟨_, t₅, t₆, rfl, waits, last⟩ := Path.ends_bind path₃
    obtain ⟨rfl, rfl⟩ := Path.ends_done last
    rw [waits.ends_request, List.append_nil]
    exact .early none early
  simp only [if_neg early] at path₃
  have confirmed : f.confirmedAt ≤ head := UInt64.not_lt.mp early
  unfold advance at path₃
  have busy : f.enter .processing = .ok { f with phase := .processing } :=
    enter_of_permits (by rw [polling]; rfl)
  simp only [busy] at path₃
  -- the work changes nothing of the follower but its open epoch
  rw [process_eq] at path₃
  obtain ⟨⟨result, f'⟩, t₅, t₆, rfl, worked, path₄⟩ := Path.ends_bind path₃
  obtain ⟨⟨result, e⟩, t₇, t₈, rfl, work, last⟩ := Path.ends_bind worked
  obtain ⟨rfl, same⟩ := Path.ends_done last
  injection same with same same'
  subst same same'
  have work := workPath_of_path work
  rw [List.append_nil]
  cases result with
  | error failure =>
    show TurnPath f (hears head ++ (t₇ ++ t₆)) turn
    rw [← List.append_assoc]
    exact turnPath_of_failure polling (.inr rfl) none (.unworked confirmed work) path₄
  | ok report =>
    have free : enter { f with phase := .processing, epoch := e } .polling =
        .ok { f with phase := .polling, epoch := e } := enter_of_permits rfl
    simp only [free] at path₄
    obtain ⟨rfl, rfl⟩ := Path.ends_done path₄
    rw [List.append_nil, ← polling]
    exact .passed none confirmed work

/-- A round without an `outcome` leaves the follower polling. -/
theorem TurnPath.polling (path : TurnPath f t turn) (polling : f.phase = .polling)
    (on : turn.outcome = none) : turn.follower.phase = .polling := by
  cases path with
  | early => exact polling
  | passing => exact polling
  | passed => exact polling
  | _ => cases on

/-- A round changes neither the settings nor the scanner nor the schedule (`SameCourse`). -/
theorem TurnPath.course (path : TurnPath f t turn) : SameCourse f turn.follower := by
  cases path <;> exact ⟨rfl, rfl, rfl⟩

end Turns

/-! ## §4. Runs -/

/-- The rounds of a follower up to some point: their exchanges, the follower then, and how
    the run ended if it did. -/
inductive Rounds (f₀ : Follower) :
    List Exchange → Follower → Option (Except Failure Unit) → Prop
  | start : Rounds f₀ [] f₀ none
  | round {t u : List Exchange} {f : Follower} {turn : Turn} (before : Rounds f₀ t f none)
      (run : Path f.turn u (.done turn)) (path : TurnPath f u turn) :
      Rounds f₀ (t ++ u) turn.follower turn.outcome

section Runs

variable {f₀ f : Follower} {t : List Exchange} {o : Option (Except Failure Unit)}

/-- Rounds that go on (`o = none`) leave the follower polling. -/
theorem Rounds.polling (rounds : Rounds f₀ t f o) (polling : f₀.phase = .polling)
    (on : o = none) : f.phase = .polling := by
  induction rounds with
  | start => exact polling
  | round before run path ih => exact path.polling (ih rfl) on

/-- And any rounds keep its course (`SameCourse`). -/
theorem Rounds.course (rounds : Rounds f₀ t f o) : SameCourse f₀ f := by
  induction rounds with
  | start => exact ⟨rfl, rfl, rfl⟩
  | round before run path ih =>
    obtain ⟨settings, scanner, schedule⟩ := path.course
    exact ⟨settings.trans ih.1, scanner.trans ih.2.1, schedule.trans ih.2.2⟩

/-- What `turns n f` does next follows the rounds so far, as more `Rounds` of `f₀`. -/
theorem Rounds.then {n : Nat} {u : List Exchange} {r : Run} (rounds : Rounds f₀ t f none)
    (polling : f.phase = .polling) (path : Path (turns n f) u (.done r)) :
    Rounds f₀ (t ++ u) r.follower r.outcome := by
  induction n generalizing f t u r with
  | zero =>
    obtain ⟨rfl, rfl⟩ := Path.ends_done path
    rw [List.append_nil]
    exact rounds
  | succ n ih =>
    unfold turns at path
    obtain ⟨turn, u₁, u₂, rfl, first, rest⟩ := Path.ends_bind path
    have way := turnPath_of_path polling first
    have next := rounds.round first way
    rw [← List.append_assoc]
    cases ended : turn.outcome with
    | some outcome =>
      rw [ended] at rest next
      obtain ⟨rfl, rfl⟩ := Path.ends_done rest
      rw [List.append_nil]
      exact next
    | none =>
      rw [ended] at rest next
      obtain ⟨r', u₃, u₄, rfl, later, last⟩ := Path.ends_bind rest
      obtain ⟨rfl, rfl⟩ := Path.ends_done last
      rw [List.append_nil]
      exact ih (r := r') next (way.polling polling ended) later

/-- A stopped follower asks nothing, stays as it is and ends with `.invalidState
    .alreadyStopped`. -/
theorem run_of_stopped (stopped : f.phase = .stopped) (n : Nat) :
    f.run n = .done ⟨f, some (.error (.invalidState .alreadyStopped)), []⟩ := if_pos stopped

/-- A `run` that has come to `r` is `Rounds` that lead to `r.follower` and `r.outcome`. -/
theorem rounds_of_path {n : Nat} {r : Run} (polling : f.phase = .polling)
    (path : Path (run n f) t (.done r)) : Rounds f t r.follower r.outcome := by
  unfold run at path
  rw [if_neg (by rw [polling]; nofun)] at path
  exact Rounds.start.then polling path

/-- Wherever a `run` is cut off, some `u` behind it makes it whole `Rounds`. -/
theorem exists_rounds {n : Nat} {d : Dialogue Run} (polling : f.phase = .polling)
    (path : Path (run n f) t d) :
    ∃ u r, Rounds f (t ++ u) r.follower r.outcome ∧ Path d u (.done r) := by
  obtain ⟨u, r, rest⟩ := exists_end d
  exact ⟨u, r, rounds_of_path polling (path.append rest), rest⟩

/-- `turns (m + 1) f` is a round that goes on and then `turns m`. -/
theorem path_turns {m : Nat} {u v : List Exchange} {turn : Turn} {r : Run}
    (first : Path f.turn u (.done turn)) (on : turn.outcome = none)
    (later : Path (turns m turn.follower) v (.done r)) :
    Path (turns (m + 1) f) (u ++ v)
      (.done { r with committed := turn.committed.toList ++ r.committed }) := by
  unfold turns
  refine (first.bind _).append ?_
  simp only [bind_done, on]
  rw [← List.append_nil v]
  exact (later.bind _).append (.here _)

/-- And it is `turns m` and then one more round. -/
theorem path_turns_succ {m : Nat} {u : List Exchange} {turn : Turn}
    {reports : List BoundaryReport} (before : Path (turns m f₀) t (.done ⟨f, none, reports⟩))
    (on : turn.outcome = none) (path : Path f.turn u (.done turn)) :
    ∃ reports, Path (turns (m + 1) f₀) (t ++ u) (.done ⟨turn.follower, none, reports⟩) := by
  -- induction on the rounds before: the one that is added goes behind all of them
  induction m generalizing f₀ t reports with
  | zero =>
    obtain ⟨rfl, same⟩ := Path.ends_done before
    injection same with same
    subst same
    have single := path_turns path on (.here (turns 0 turn.follower))
    rw [List.append_nil] at single
    exact ⟨_, single⟩
  | succ m ih =>
    unfold turns at before
    obtain ⟨first, u₁, u₂, rfl, opening, rest⟩ := Path.ends_bind before
    cases ended : first.outcome with
    | some outcome =>
      rw [ended] at rest
      obtain ⟨-, same⟩ := Path.ends_done rest
      cases same
    | none =>
      rw [ended] at rest
      obtain ⟨r, u₃, u₄, rfl, later, last⟩ := Path.ends_bind rest
      obtain ⟨rfl, same⟩ := Path.ends_done last
      injection same with same stands
      have remaining : Path (turns m first.follower) u₃ (.done ⟨f, none, r.committed⟩) := by
        rw [same, stands]
        exact later
      obtain ⟨reports', more⟩ := ih remaining
      rw [List.append_nil, List.append_assoc]
      exact ⟨_, path_turns opening ended more⟩

/-- Rounds that go on are a path of `turns m` for some `m`. -/
theorem Rounds.path (rounds : Rounds f₀ t f o) (on : o = none) :
    ∃ m reports, Path (turns m f₀) t (.done ⟨f, none, reports⟩) := by
  induction rounds with
  | start => exact ⟨0, [], .here _⟩
  | round before run path ih =>
    obtain ⟨m, reports, earlier⟩ := ih rfl
    exact ⟨m + 1, path_turns_succ earlier on run⟩

/-- A run that has ended did so in its last round `u`. -/
theorem Rounds.ended {outcome : Except Failure Unit} (rounds : Rounds f₀ t f (some outcome)) :
    ∃ top g u turn, t = top ++ u ∧ Rounds f₀ top g none ∧ TurnPath g u turn ∧
      f = turn.follower ∧ turn.outcome = some outcome := by
  generalize ended : some outcome = o at rounds
  cases rounds with
  | start => cases ended
  | @round top u g turn before run path => exact ⟨top, g, u, turn, rfl, before, path, rfl, rfl⟩

/-- Each exchange `x` takes place in one of the rounds, between its `front` and its `rest`. If
    the run ends in that round, nothing follows it. -/
theorem Rounds.locate {pre post : List Exchange} {x : Exchange}
    (rounds : Rounds f₀ (pre ++ x :: post) f o) :
    ∃ top g front rest turn, pre = top ++ front ∧ Rounds f₀ top g none ∧
      TurnPath g (front ++ x :: rest) turn ∧
      (turn.outcome ≠ none → post = rest ∧ f = turn.follower ∧ o = turn.outcome) := by
  generalize whole : pre ++ x :: post = t at rounds
  induction rounds generalizing post with
  | start => simp at whole
  | @round t u g turn before run path ih =>
    rcases cons_split whole with ⟨a, rfl, rfl⟩ | ⟨a, rfl, rfl⟩
    · exact ⟨t, g, a, post, turn, rfl, before, path, fun _ => ⟨rfl, rfl, rfl⟩⟩
    · -- the exchange stands in an earlier round, behind which the run went on
      obtain ⟨top, g', front, rest, turn', split', rounds, path', last⟩ := ih rfl
      exact ⟨top, g', front, rest, turn', split', rounds, path',
        fun ended => absurd (last ended).2.2.symm ended⟩

end Runs

end Follower

end StakeRelay
