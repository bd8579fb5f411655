/-
  StakeRelay.Proofs.Follower.Stopping — a stop is prompt and clean.

  A follower looks at the flag at the top of its loop and during a wait. So when the flag
  comes to stand in the middle of a round, the round is brought to its end, with everything
  that the work at its height still asks, and the next look ends the run. A pause of that
  round takes no time: the raised flag was not seen yet when it begins. This does not depend
  on the retries that are left, because the flag is looked at before they are.

  Main statements:
    * `Follower.TurnPath.shape` — what a round asks: signal, head, work, pause;
    * `Follower.exists_placed` — the round in which an exchange takes place, and the rounds
      around it;
    * `Follower.cleanStop` — what becomes of a run in which the flag comes to stand;
    * `stop_is_prompt_and_clean` — that, and how long the waits of a run last.
-/

import StakeRelay.Proofs.Follower.Session
import StakeRelay.Proofs.Follower.Watch

namespace StakeRelay

open Dialogue

/-! ## §1. What a round asks -/

/-- What the work at a height may ask: no head, no look at the signal, no wait, and no block
    but the one at the height. -/
def Request.WorksAt (scanner : Scanner) (height : UInt64) : Request → Prop
  | .source .head => False
  | .source (.logs filter) => SourceQuery.logs filter = Follower.logsOf scanner height
  | .stopRequested => False
  | .wait _ => False
  | _ => True

/-- What may still be asked once a stop is certain: no head, and no block but the one at the
    height. -/
def Request.Late (scanner : Scanner) (height : UInt64) : Request → Prop
  | .source .head => False
  | .source (.logs filter) => SourceQuery.logs filter = Follower.logsOf scanner height
  | _ => True

/-- What the work at a height may ask (`WorksAt`) may still be asked late. -/
theorem Request.WorksAt.late {scanner : Scanner} {height : UInt64} {r : Request}
    (works : r.WorksAt scanner height) : r.Late scanner height := by
  cases r with
  | source q =>
    cases q with
    | head => exact works
    | logs filter => exact works
    | _ => trivial
  | _ => trivial

section Work

variable {s : Schedule} {scanner : Scanner} {h : UInt64} {e : OpenEpoch} {t : List Exchange}
  {last top : List StakerRecord}

/-- Reading the registry is work at any height. -/
theorem Walk.Reads.worksAt {w : Walk} (reads : w.Reads top t) :
    ∀ x ∈ t, x.request.WorksAt scanner h :=
  reads.forall_mem (fun _ => trivial) (fun _ _ => trivial) fun _ _ => trivial

namespace Schedule

/-- So is telling the change. -/
theorem Tells.worksAt (tells : s.Tells last top t) : ∀ x ∈ t, x.request.WorksAt scanner h := by
  cases tells with
  | nothing reads =>
    exact List.forall_mem_append.mpr ⟨reads.worksAt, List.forall_mem_singleton.mpr trivial⟩
  | told reads =>
    exact List.forall_mem_append.mpr ⟨reads.worksAt,
      List.forall_mem_cons.mpr ⟨trivial, List.forall_mem_singleton.mpr trivial⟩⟩

/-- So is the registry half of a boundary. -/
theorem CommitPath.worksAt {outcome : Except Failure (Nat × Nat)}
    (path : s.CommitPath h t outcome) : ∀ x ∈ t, x.request.WorksAt scanner h := by
  have two {x y : Exchange} (first : x.request.WorksAt scanner h)
      (second : y.request.WorksAt scanner h) : ∀ z ∈ [x, y], z.request.WorksAt scanner h :=
    List.forall_mem_cons.mpr ⟨first, List.forall_mem_singleton.mpr second⟩
  cases path with
  | unsized failure => exact List.forall_mem_singleton.mpr trivial
  | unread reads failure =>
    exact List.forall_mem_append.mpr ⟨reads.worksAt, List.forall_mem_singleton.mpr trivial⟩
  | refused reads some failure =>
    exact List.forall_mem_append.mpr ⟨reads.worksAt, two trivial trivial⟩
  | unsaved tells failure =>
    exact List.forall_mem_append.mpr ⟨tells.worksAt, List.forall_mem_singleton.mpr trivial⟩
  | unmarked tells failure =>
    exact List.forall_mem_append.mpr ⟨tells.worksAt, two trivial trivial⟩
  | committed tells => exact List.forall_mem_append.mpr ⟨tells.worksAt, two trivial trivial⟩

theorem FlushPath.worksAt {done : Except Failure Nat × OpenEpoch} (path : FlushPath e t done) :
    ∀ x ∈ t, x.request.WorksAt scanner h := by
  cases path with
  | nothing => exact List.forall_mem_nil _
  | refused => exact List.forall_mem_singleton.mpr trivial
  | flushed => exact List.forall_mem_singleton.mpr trivial

/-- And so are both halves. -/
theorem SettlePath.worksAt {done : Except Failure BoundaryReport × OpenEpoch}
    (path : s.SettlePath h e t done) : ∀ x ∈ t, x.request.WorksAt scanner h := by
  cases path with
  | unflushed flush => exact flush.worksAt
  | uncommitted flush commit => exact List.forall_mem_append.mpr ⟨flush.worksAt, commit.worksAt⟩
  | settled flush commit => exact List.forall_mem_append.mpr ⟨flush.worksAt, commit.worksAt⟩

end Schedule

/-- The work at a height asks for the block at the height, and for no other, no head and no
    look. -/
theorem Follower.WorkPath.worksAt
    {done : Except Failure (Option BoundaryReport) × OpenEpoch}
    (path : WorkPath scanner s h e t done) : ∀ x ∈ t, x.request.WorksAt scanner h := by
  cases path with
  | unscanned => exact List.forall_mem_singleton.mpr rfl
  | broken => exact List.forall_mem_singleton.mpr rfl
  | inside => exact List.forall_mem_singleton.mpr rfl
  | boundary whole ends settle => exact List.forall_mem_cons.mpr ⟨rfl, settle.worksAt⟩

end Work

namespace Follower

section Rounds

variable {f f₀ : Follower} {t front rest pre post : List Exchange} {x : Exchange} {turn : Turn}

/-- What may stand at the end of a round. -/
def Pauses (f : Follower) (t : List Exchange) : Prop :=
  t = [] ∨ t = [⟨.wait f.settings.interval, ()⟩]

theorem pauses_pause (f : Follower) : f.Pauses f.pause := by
  unfold Pauses pause
  split
  · exact .inr rfl
  · exact .inl rfl

/-- The round goes on, or it ends the run with a failure that does not pass. -/
def EndsFatally (turn : Turn) : Prop :=
  turn.outcome = none ∨ turn.follower.phase = .stopped ∧
    ∃ failure, turn.outcome = some (.error failure) ∧ failure.isTransient = false

/-- A round looks at the signal and is over, or it asks for the head, works at `f.current` and
    pauses. -/
theorem TurnPath.shape (path : TurnPath f t turn) :
    (∃ stop, t = [⟨.stopRequested, stop⟩]) ∨
      ∃ heard work pause,
        t = ⟨.stopRequested, false⟩ :: ⟨.source .head, heard⟩ :: (work ++ pause) ∧
        (∀ y ∈ work, y.request.WorksAt f.scanner f.current) ∧ f.Pauses pause ∧
        EndsFatally turn := by
  have fails {failure : Failure} {e : OpenEpoch} {u : List Exchange}
      (path : FailPath f u failure e) :
      ∃ heard work, u = ⟨.stopRequested, false⟩ :: ⟨.source .head, heard⟩ :: work ∧
        ∀ y ∈ work, y.request.WorksAt f.scanner f.current := by
    cases path with
    | unheard failure => exact ⟨.error failure, [], rfl, List.forall_mem_nil _⟩
    | unworked confirmed work => exact ⟨_, _, rfl, work.worksAt⟩
  cases path with
  | asked => exact .inl ⟨true, rfl⟩
  | exhausted => exact .inl ⟨false, rfl⟩
  | early left early => exact .inr ⟨_, [], _, rfl, List.forall_mem_nil _, .inr rfl, .inl rfl⟩
  | passing left failed passing =>
    obtain ⟨heard, work, rfl, works⟩ := fails failed
    exact .inr ⟨heard, work, f.pause, rfl, works, f.pauses_pause, .inl rfl⟩
  | fatal left failed fatal =>
    obtain ⟨heard, work, rfl, works⟩ := fails failed
    refine .inr ⟨heard, work, [], ?_, works, .inl rfl, .inr ⟨rfl, _, rfl, fatal⟩⟩
    rw [List.append_nil]
  | @passed head work report e left confirmed works =>
    refine .inr ⟨.ok head, work, [], ?_, works.worksAt, .inl rfl, .inl rfl⟩
    rw [List.append_nil]
    rfl

/-- A round seen from one of its exchanges, which is no look at the signal. -/
structure Within (f : Follower) (turn : Turn) (front : List Exchange) (x : Exchange)
    (work pause : List Exchange) : Prop where
  looks : ∃ more, front = ⟨.stopRequested, false⟩ :: more ∧
    ∀ y ∈ more, y.request ≠ .stopRequested ∧ ∀ ms, y.request ≠ .wait ms
  works : ∀ y ∈ work, y.request.WorksAt f.scanner f.current
  pauses : f.Pauses pause
  waits : ∀ ms, x.request = .wait ms → ms = f.settings.interval ∧ work = [] ∧ pause = []
  ends : EndsFatally turn

/-- Behind an exchange `x` of a round that is no look come the rest of the work and the pause
    (`Within`). -/
theorem TurnPath.within (path : TurnPath f (front ++ x :: rest) turn)
    (other : x.request ≠ .stopRequested) :
    ∃ work pause, rest = work ++ pause ∧ Within f turn front x work pause := by
  rcases path.shape with ⟨stop, whole⟩ | ⟨heard, work, pause, whole, works, pauses, ends⟩
  · cases front with
    | nil =>
      obtain ⟨rfl, -⟩ := List.cons.inj whole
      exact absurd rfl other
    | cons y front => simp at whole
  cases front with
  | nil =>
    obtain ⟨rfl, -⟩ := List.cons.inj whole
    exact absurd rfl other
  | cons y front =>
  obtain ⟨rfl, whole'⟩ := List.cons.inj whole
  -- what works neither looks nor waits
  have quiet {y : Exchange} (works : y.request.WorksAt f.scanner f.current) :
      y.request ≠ .stopRequested ∧ ∀ ms, y.request ≠ .wait ms := by
    constructor
    · intro same
      rw [same] at works
      exact works
    · intro ms same
      rw [same] at works
      exact works
  cases front with
  | nil =>
    obtain ⟨rfl, rfl⟩ := List.cons.inj whole'
    exact ⟨work, pause, rfl, ⟨[], rfl, List.forall_mem_nil _⟩, works, pauses, nofun, ends⟩
  | cons y front =>
  obtain ⟨rfl, parts⟩ := List.cons.inj whole'
  rcases (cons_split parts).symm with ⟨work', rfl, rfl⟩ | ⟨pause', rfl, split⟩
  · obtain ⟨early, here, later⟩ : (∀ y ∈ front, y.request.WorksAt f.scanner f.current) ∧
        x.request.WorksAt f.scanner f.current ∧
        ∀ y ∈ work', y.request.WorksAt f.scanner f.current := by
      rw [List.forall_mem_append, List.forall_mem_cons] at works
      exact ⟨works.1, works.2.1, works.2.2⟩
    refine ⟨work', pause, rfl, ⟨_, rfl, ?_⟩, later, pauses, fun ms same => ?_, ends⟩
    · exact List.forall_mem_cons.mpr ⟨⟨nofun, nofun⟩, fun y member => quiet (early y member)⟩
    · exact absurd same ((quiet here).2 ms)
  · rcases pauses with rfl | rfl
    · simp at split
    · -- the exchange is the pause
      obtain ⟨rfl, same⟩ : pause' = [] ∧ [⟨.wait f.settings.interval, ()⟩] = x :: rest := by
        cases pause' with
        | nil => exact ⟨rfl, split⟩
        | cons y pause' => simp at split
      obtain ⟨rfl, rfl⟩ := List.cons.inj same
      refine ⟨[], [], rfl, ⟨_, rfl, ?_⟩, List.forall_mem_nil _, .inl rfl, fun ms same => ?_, ends⟩
      · rw [List.append_nil]
        exact List.forall_mem_cons.mpr ⟨⟨nofun, nofun⟩, fun y member => quiet (works y member)⟩
      · injection same with same
        exact ⟨same.symm, rfl, rfl⟩

/-- An exchange `x` of a run, and the round of the follower `f` in which it takes place: `top`
    are the exchanges of the rounds before it, `front` and `rest` are those of the round
    itself, and `later` are those of the rounds behind it. -/
structure Placed (n : Nat) (f₀ : Follower) (r : Run) (x : Exchange)
    (top front rest later : List Exchange) (f : Follower) (turn : Turn) : Prop where
  course : SameCourse f₀ f
  before : ∃ m reports, Path (turns m f₀) top (.done ⟨f, none, reports⟩)
  run : Path f.turn (front ++ x :: rest) (.done turn)
  way : TurnPath f (front ++ x :: rest) turn
  ended : turn.outcome ≠ none → later = [] ∧ r.follower = turn.follower ∧ r.outcome = turn.outcome
  goesOn : turn.outcome = none → turn.follower.phase = .polling ∧
    ∃ m r', n ≤ m + top.length + 1 ∧ Path (turns m turn.follower) later (.done r') ∧
      r'.follower = r.follower ∧ r'.outcome = r.outcome

/-- Each exchange `x` takes place in one of the rounds (`Placed`). -/
theorem exists_placed {n : Nat} {r : Run} (polling : f.phase = .polling)
    (path : Path (turns n f) (pre ++ x :: post) (.done r)) :
    ∃ top front rest later g turn, pre = top ++ front ∧ post = rest ++ later ∧
      Placed n f r x top front rest later g turn := by
  -- induction on the rounds; `x` stands in the first one or behind it
  induction n generalizing f pre r with
  | zero =>
    have none := (Path.ends_done path).1
    simp at none
  | succ n ih =>
    unfold turns at path
    obtain ⟨first, u₁, u₂, whole, opening, behind⟩ := Path.ends_bind path
    have way := turnPath_of_path polling opening
    rcases (cons_split whole).symm with ⟨rest, rfl, rfl⟩ | ⟨pre', rfl, rfl⟩
    · -- it takes place in the first round
      refine ⟨[], pre, rest, u₂, f, first, rfl, rfl, ⟨rfl, rfl, rfl⟩, ⟨0, [], .here _⟩, opening,
        way, ?_, ?_⟩
      · intro ended
        cases outcome : first.outcome with
        | none => exact absurd outcome ended
        | some outcome =>
          rw [outcome] at behind
          obtain ⟨rfl, rfl⟩ := Path.ends_done behind
          exact ⟨rfl, rfl, rfl⟩
      · intro on
        rw [on] at behind
        obtain ⟨r', v, _, rfl, later, last⟩ := Path.ends_bind behind
        obtain ⟨rfl, rfl⟩ := Path.ends_done last
        rw [List.append_nil]
        exact ⟨way.polling polling on, n, r', Nat.le_refl _, later, rfl, rfl⟩
    · -- it takes place behind the first round, which went on
      cases on : first.outcome with
      | some outcome =>
        rw [on] at behind
        have none := (Path.ends_done behind).1
        simp at none
      | none =>
      rw [on] at behind
      obtain ⟨r', v, w, split, more, last⟩ := Path.ends_bind behind
      obtain ⟨rfl, rfl⟩ := Path.ends_done last
      rw [List.append_nil] at split
      rw [← split] at more
      obtain ⟨top, front, rest, later, g, turn, rfl, rfl, placed⟩ :=
        ih (way.polling polling on) more
      have some : 1 ≤ u₁.length := by
        rcases way.shape with ⟨stop, rfl⟩ | ⟨heard, work, pause, rfl, -⟩ <;> simp
      obtain ⟨settings, scanner, schedule⟩ := way.course
      obtain ⟨course, ⟨m, reports, before⟩, run, located, ended, goesOn⟩ := placed
      refine ⟨u₁ ++ top, front, rest, later, g, turn, (List.append_assoc _ _ _).symm, rfl,
        ⟨course.1.trans settings, course.2.1.trans scanner, course.2.2.trans schedule⟩,
        ⟨m + 1, _, path_turns opening on before⟩, run, located, ended, ?_⟩
      intro goes
      obtain ⟨polls, m, r'', enough, later, same⟩ := goesOn goes
      refine ⟨polls, m, r'', ?_, later, same⟩
      rw [List.length_append]
      omega

end Rounds

/-! ## §2. Rounds under a watch -/

section Watched

variable {f f₀ : Follower} {t front rest : List Exchange} {x : Exchange} {turn : Turn}
  {g g' g₁ g₂ g₃ : Watch}

/-- A round begins with a look at the signal, and a raised flag ends it there with `.ok ()`. -/
theorem TurnPath.looks (path : TurnPath f t turn) :
    ∃ stop more, t = ⟨.stopRequested, stop⟩ :: more ∧
      (stop = true → more = [] ∧ turn = ⟨f.halted, some (.ok ()), none⟩) := by
  cases path with
  | asked => exact ⟨true, [], rfl, fun _ => ⟨rfl, rfl⟩⟩
  | exhausted => exact ⟨false, [], rfl, nofun⟩
  | early => exact ⟨false, _, rfl, nofun⟩
  | passing left fails => cases fails <;> exact ⟨false, _, rfl, nofun⟩
  | fatal left fails => cases fails <;> exact ⟨false, _, rfl, nofun⟩
  | passed => exact ⟨false, _, rfl, nofun⟩

/-- A follower that meets a raised flag at its loop top asks for nothing but the look, and ends
    with `.ok ()`. -/
theorem path_of_raised {m : Nat} {r : Run} (polling : f.phase = .polling)
    (raised : g.signal.raised = true) (path : Path (turns m f) t (.done r))
    (through : Watch.steps.Through g t g') :
    (m = 0 ∧ t = []) ∨
      (t = [⟨.stopRequested, true⟩] ∧ r.follower = f.halted ∧ r.outcome = some (.ok ())) := by
  cases m with
  | zero => exact .inl ⟨rfl, (Path.ends_done path).1⟩
  | succ m =>
    unfold turns at path
    obtain ⟨turn, u, v, rfl, round, later⟩ := Path.ends_bind path
    obtain ⟨stop, more, rfl, stops⟩ := (turnPath_of_path polling round).looks
    cases through with
    | step look _ =>
    obtain ⟨seen, -⟩ := look
    obtain ⟨rfl, rfl⟩ := stops (seen.trans raised)
    obtain ⟨rfl, rfl⟩ := Path.ends_done later
    rw [seen, raised]
    exact .inr ⟨rfl, rfl, rfl⟩

/-- Within a round a raised flag was not seen yet (`Alert`): the look at its beginning found it
    down. -/
theorem Within.alert {work pause : List Exchange} (within : Within f turn front x work pause)
    (through : Watch.steps.Through g front g₁) : g₁.signal.Alert := by
  obtain ⟨more, rfl, quiet⟩ := within.looks
  cases through with
  | step look calls =>
    obtain ⟨seen, rfl⟩ := look
    refine Watch.alert_through calls (StopSignal.alert_of_lowered seen.symm) ?_
    intro y member
    exact (quiet y member).2

/-- No wait takes time (`stepsAtOnce`) in what is left of a round in which the flag came to
    stand. -/
theorem Within.atOnce {work pause : List Exchange} (within : Within f turn front x work pause)
    (alert : g₁.signal.Alert) (step : Watch.steps g₁ x g₂) (stands : g₂.Stands)
    (through : Watch.steps.Through g₂ (work ++ pause) g₃) :
    Watch.stepsAtOnce.Through g₂ (work ++ pause) g₃ := by
  by_cases waits : ∃ ms, x.request = .wait ms
  · -- the exchange is the pause of the round, and nothing is left
    obtain ⟨ms, waits⟩ := waits
    obtain ⟨-, rfl, rfl⟩ := within.waits ms waits
    cases through
    exact .here _
  have alert : g₂.signal.Alert := Watch.alert_step alert step fun ms same => waits ⟨ms, same⟩
  obtain ⟨g, working, pausing⟩ := through.split
  -- only the pause can wait: the work behind `x` asks the partners alone
  have quiet : ∀ y ∈ work, ∀ ms, y.request ≠ .wait ms := by
    intro y member ms same
    have works := within.works y member
    rw [same] at works
    exact works
  refine (Watch.atOnce_of_quiet working quiet).append ?_
  rcases within.pauses with rfl | rfl
  · cases pausing
    exact .here _
  · cases pausing with
    | step wait none =>
    cases none
    have standing : g.Stands := working.keeps (fun _ _ _ stands step => stands.step step) stands
    have wakes := (Watch.alert_through working alert quiet).wakes standing.raised
    refine .step ⟨wait, ?_⟩ (.here _)
    intro ms same
    rw [show _ = g.waited _ from wait]
    exact Watch.now_waited wakes _

end Watched

/-! ## §3. The end of a run -/

/-- How a run goes on in whose exchange `x`, behind `pre`, the flag comes to stand: `f` is the
    follower at the loop top before it, `rest` and `turn` are the end of that round, `post` is
    everything that the run still asks, and `r` is what it comes to. The watch is `g₁` before
    the exchange and `g₂` behind it. -/
structure CleanStop (n : Nat) (f₀ : Follower) (pre : List Exchange) (x : Exchange)
    (g₁ g₂ g₃ : Watch) (post : List Exchange) (r : Run) (f : Follower) (rest : List Exchange)
    (turn : Turn) : Prop where
  /-- The round is brought to its end, as any other round. -/
  round : ∃ top front m reports, pre = top ++ front ∧
    Path (turns m f₀) top (.done ⟨f, none, reports⟩) ∧ Path f.turn (front ++ x :: rest) (.done turn)
  /-- No head is asked for any more, and no block but the one of the round. -/
  late : ∀ y ∈ post, y.request.Late f.scanner f.current
  /-- If a wait is in progress, it ends with the moment that raises the flag, and the round
      ends with it. -/
  inWait : ∀ ms, x.request = .wait ms →
    rest = [] ∧ ∃ m, g₁.RaisedBy m g₂.ahead ∧ g₂.now = max g₁.now m.1
  /-- No later wait takes time. -/
  atOnce : Watch.stepsAtOnce.Through g₂ post g₃
  /-- With rounds enough the run is over behind the next look at the signal. It ends well,
      whatever retries are left, unless the round met a failure that does not pass. -/
  ends : pre.length + 2 ≤ n → r.follower.phase = .stopped ∧
    (turn.outcome = none ∧ post = rest ++ [⟨.stopRequested, true⟩] ∧
        r.follower = turn.follower.halted ∧ r.outcome = some (.ok ()) ∨
      ∃ failure, failure.isTransient = false ∧ turn.outcome = some (.error failure) ∧
        post = rest ∧ r.follower = turn.follower ∧ r.outcome = some (.error failure))

/-- Behind the round in which the flag came to stand there is at most one look. -/
theorem Placed.later_of_raised {n : Nat} {f₀ f : Follower} {r : Run} {x : Exchange}
    {top front rest later : List Exchange} {turn : Turn} {g g' : Watch}
    (placed : Placed n f₀ r x top front rest later f turn) (raised : g.signal.raised = true)
    (through : Watch.steps.Through g later g') :
    (later = [] ∧ (turn.outcome = none → n ≤ top.length + 1)) ∨
      (later = [⟨.stopRequested, true⟩] ∧ turn.outcome = none ∧
        r.follower = turn.follower.halted ∧ r.outcome = some (.ok ())) := by
  cases ended : turn.outcome with
  | some outcome => exact .inl ⟨(placed.ended (by rw [ended]; nofun)).1, nofun⟩
  | none =>
    obtain ⟨polls, m, r', enough, goes, follower, outcome⟩ := placed.goesOn ended
    rcases path_of_raised polls raised goes through with ⟨rfl, rfl⟩ | ⟨rfl, stops, ends⟩
    · exact .inl ⟨rfl, fun _ => by omega⟩
    · exact .inr ⟨rfl, rfl, follower ▸ stops, outcome ▸ ends⟩

/-- What is left of a round is `Late`: it asks for no head and no other block. -/
theorem Within.late {f : Follower} {turn : Turn} {front work pause : List Exchange} {x : Exchange}
    (within : Within f turn front x work pause) :
    ∀ y ∈ work ++ pause, y.request.Late f.scanner f.current := by
  intro y member
  rcases List.mem_append.mp member with inside | inside
  · exact (within.works y inside).late
  · rcases within.pauses with rfl | rfl
    · cases inside
    · rw [List.mem_singleton.mp inside]
      trivial

/-- A run in which the flag comes to stand with `x` goes on as `CleanStop` says. -/
theorem cleanStop {n : Nat} {f₀ : Follower} {pre post : List Exchange} {x : Exchange} {r : Run}
    {g₀ g₁ g₂ g₃ : Watch} (polling : f₀.phase = .polling)
    (path : Path (turns n f₀) (pre ++ x :: post) (.done r))
    (before : Watch.steps.Through g₀ pre g₁) (step : Watch.steps g₁ x g₂)
    (behind : Watch.steps.Through g₂ post g₃) (fallen : ¬ g₁.Stands) (stands : g₂.Stands) :
    ∃ f rest turn, CleanStop n f₀ pre x g₁ g₂ g₃ post r f rest turn := by
  obtain ⟨top, front, rest, later, f, turn, rfl, rfl, placed⟩ := exists_placed polling path
  -- a look leaves the watch as it is, so the exchange is none
  have other : x.request ≠ .stopRequested := by
    intro same
    rcases Watch.steps_cases step with ⟨-, rfl⟩ | ⟨ms, rfl, -⟩ | ⟨look, -⟩
    · exact fallen stands
    · cases same
    · exact look same
  obtain ⟨work, pause, rfl, within⟩ := placed.way.within other
  obtain ⟨gTop, -, fronting⟩ := before.split
  have alert := within.alert fronting
  obtain ⟨g, ending, more⟩ := behind.split
  have standing : g.Stands := ending.keeps (fun _ _ _ stands step => stands.step step) stands
  have looks := placed.later_of_raised standing.raised more
  have last : ∀ y ∈ later, y.request = .stopRequested := by
    intro y member
    rcases looks with ⟨rfl, -⟩ | ⟨rfl, -⟩
    · cases member
    · rw [List.mem_singleton.mp member]
  refine ⟨f, work ++ pause, turn, ?_, ?_, ?_, ?_, ?_⟩
  · obtain ⟨m, reports, earlier⟩ := placed.before
    exact ⟨top, front, m, reports, rfl, earlier, placed.run⟩
  · intro y member
    rcases List.mem_append.mp member with inside | look
    · exact within.late y inside
    · rw [last y look]
      trivial
  · intro ms same
    obtain ⟨-, rfl, rfl⟩ := within.waits ms same
    rcases Watch.steps_cases step with ⟨rfl, -⟩ | ⟨ms, -, rfl⟩ | ⟨-, wait, -⟩
    · cases same
    · exact ⟨rfl, Watch.raisedBy_of_waited alert fallen stands⟩
    · exact absurd same (wait ms)
  · refine (within.atOnce alert step stands ending).append (Watch.atOnce_of_quiet more ?_)
    intro y member ms same
    rw [last y member] at same
    cases same
  · intro enough
    rw [List.length_append] at enough
    rcases looks with ⟨rfl, few⟩ | ⟨rfl, on, follower, outcome⟩
    · rcases within.ends with on | ⟨stopped, failure, ended, fatal⟩
      · have := few on
        omega
      · obtain ⟨-, follower, outcome⟩ := placed.ended (by rw [ended]; nofun)
        rw [follower, outcome, List.append_nil]
        exact ⟨stopped, .inr ⟨failure, fatal, ended, rfl, rfl, ended⟩⟩
    · rw [follower]
      exact ⟨rfl, .inl ⟨on, rfl, rfl, outcome⟩⟩

/-- Each wait of a run is for `f₀.settings.interval`. -/
theorem wait_asks {n : Nat} {f₀ : Follower} {pre : List Exchange} {ms : UInt64} {d : Dialogue Run}
    (polling : f₀.phase = .polling) (path : Path (turns n f₀) (pre ++ [⟨.wait ms, ()⟩]) d) :
    ms = f₀.settings.interval := by
  obtain ⟨post, r, rest⟩ := exists_end d
  have whole := path.append rest
  rw [List.append_assoc] at whole
  obtain ⟨top, front, rest, later, f, turn, -, -, placed⟩ := exists_placed polling whole
  obtain ⟨work, pause, -, within⟩ := placed.way.within nofun
  rw [← placed.course.1]
  exact (within.waits ms rfl).1

end Follower

/-! ## §4. Every run -/

/-- A stop is prompt and clean. Let a run of a follower that was just set up come to an
    exchange `x`.

    If the flag comes to stand with it, then the run comes to an end, and whatever else it is
    answered it does so as `CleanStop` says: the round in progress is brought to its end, no
    further one begins, no wait takes time any more, and the run ends well unless that round
    met a failure that does not pass.

    If the exchange is a wait, then it lasts the interval, or thirty years where the interval
    is longer, once the sender is gone and the flag is down. More `send false` do not change
    when it ends, as long as none overtakes a raised flag that was not seen
    (`Watch.MoreFalses`). -/
theorem stop_is_prompt_and_clean (settings : FollowerSettings) (scanner : Scanner)
    (schedule : Schedule) (n : Nat) (pre : List Exchange) (x : Exchange)
    (d : Dialogue Follower.Run) (g₀ g₁ g₂ : Watch)
    (path : Path ((Follower.ofSettings settings scanner schedule).run n) (pre ++ [x]) d)
    (before : Watch.steps.Through g₀ pre g₁) (step : Watch.steps g₁ x g₂) :
    (¬ g₁.Stands → g₂.Stands →
      (∃ post r g₃, Path d post (.done r) ∧ Watch.steps.Through g₂ post g₃) ∧
      ∀ post r g₃, Path d post (.done r) → Watch.steps.Through g₂ post g₃ →
        ∃ f rest turn, Follower.CleanStop n (Follower.ofSettings settings scanner schedule)
          pre x g₁ g₂ g₃ post r f rest turn) ∧
    ∀ ms, x.request = .wait ms →
      (g₁.signal.connected = false → g₁.signal.raised = false →
        g₂.now = g₁.now + min settings.interval.toNat Wait.longest) ∧
      ∀ g₁' g₂', g₁.MoreFalses g₁' → Watch.steps g₁' x g₂' → g₂'.now = g₂.now := by
  have polling : (Follower.ofSettings settings scanner schedule).phase = .polling := rfl
  unfold Follower.run at path
  rw [if_neg (by rw [polling]; nofun)] at path
  refine ⟨?_, ?_⟩
  · intro fallen stands
    refine ⟨Watch.exists_end d g₂, ?_⟩
    intro post r g₃ rest behind
    have whole := path.append rest
    rw [List.append_assoc] at whole
    exact Follower.cleanStop polling whole before step behind fallen stands
  · intro ms same
    obtain ⟨request, reply⟩ := x
    obtain rfl : request = .wait ms := same
    obtain rfl : g₂ = g₁.waited ms := step
    refine ⟨?_, ?_⟩
    · intro gone lowered
      obtain rfl := Follower.wait_asks polling path
      exact Watch.now_waited_of_gone gone lowered _
    · intro g₁' g₂' more step'
      obtain rfl : g₂' = g₁'.waited ms := step'
      exact more.now_waited ms

/-! ## §5. A follower that pauses -/

namespace Follower

/-- A follower that stays ten blocks behind the head and bears one failure. -/
def patient (interval : UInt64) : Follower :=
  .ofSettings ⟨0, 10, 1, interval⟩ Session.shortScanner Session.shortSchedule

/-- It is told a head that is too low. -/
def lowHead : List Exchange := [⟨.stopRequested, false⟩, ⟨.source .head, .ok (5 : UInt64)⟩]

/-- It is not told the head. -/
def noHead : Exchange := ⟨.source .head, .error (.network .head)⟩

end Follower

namespace Watch

/-- The sender acts once, five milliseconds from the beginning. -/
def sending (events : List SignalEvent) : Watch :=
  ⟨0, .initial false, [(5, events)], List.pairwise_singleton _ _⟩

/-- The sender does nothing. -/
def idle : Watch := ⟨0, .initial false, [], .nil⟩

/-- The sender is gone, and the flag is down. -/
def gone : Watch := ⟨0, ⟨false, false, false⟩, [], .nil⟩

/-- A raised flag stands if nothing is `ahead`. -/
theorem stands_raised {g : Watch} (raised : g.signal.raised = true) (none : g.ahead = []) :
    g.Stands := by
  intro k
  unfold behind
  rw [none, List.take_nil]
  exact raised

theorem through_lowHead {g : Watch} (lowered : g.signal.raised = false) :
    steps.Through g Follower.lowHead (g.later g.now 0) :=
  .step ⟨lowered.symm, rfl⟩ (.step ⟨g.now, 0, Nat.le_refl _, rfl⟩ (.here _))

end Watch

theorem Follower.path_lowHead (interval : UInt64) : ∃ d,
    Path ((Follower.patient interval).run 3) (Follower.lowHead ++ [⟨.wait interval, ()⟩]) d := by
  apply Exists.intro
  with_unfolding_all
    iterate 3 apply Path.step
    apply Path.here

theorem Follower.path_noHead : ∃ r : Follower.Run,
    Path ((Follower.patient 1000).run 3)
        ([⟨.stopRequested, false⟩, Follower.noHead] ++ [⟨.stopRequested, true⟩]) (.done r) ∧
      r.outcome = some (.ok ()) ∧ r.follower.retriesLeft = 0 := by
  refine ⟨⟨{ Follower.patient 1000 with phase := .stopped, retriesLeft := 0 }, some (.ok ()), []⟩,
    ?_, rfl, rfl⟩
  with_unfolding_all
    iterate 3 apply Path.step
    apply Path.here

/-- The flag is raised while the follower asks for the head and spends its only retry: it
    looks at the signal and ends well. It is raised during a pause of a second: the pause
    takes five milliseconds, also if a `send false` comes right before. It is sent and not
    raised: the pause takes as long as without. The sender is gone: it takes the whole second. -/
theorem patient_follower_is_stopped :
    (∃ r f rest turn, r.outcome = some (.ok ()) ∧ r.follower.retriesLeft = 0 ∧
      Follower.CleanStop 3 (Follower.patient 1000) [⟨.stopRequested, false⟩] Follower.noHead
        (Watch.sending [.send true]) ((Watch.sending [.send true]).later 7 1)
        ((Watch.sending [.send true]).later 7 1) [⟨.stopRequested, true⟩] r f rest turn) ∧
    (∃ post r g₃ f rest turn,
      Follower.CleanStop 3 (Follower.patient 1000) Follower.lowHead ⟨.wait 1000, ()⟩
        (Watch.sending [.send true]) ((Watch.sending [.send true]).waited 1000) g₃ post r f rest
        turn) ∧
    ((Watch.sending [.send true]).waited 1000).now = 5 ∧
    ((Watch.sending [.send false]).waited 1000).now = (Watch.idle.waited 1000).now ∧
    ((Watch.sending [.send false, .send true]).waited 1000).now =
      ((Watch.sending [.send true]).waited 1000).now ∧
    (Watch.gone.waited 1000).now = 1000 := by
  have fallen : ¬ (Watch.sending [.send true]).Stands := by
    intro stands
    cases stands.raised
  obtain ⟨d, path⟩ := Follower.path_lowHead 1000
  -- the stop meets the round at its head or in its pause; the other pauses have watches of their own
  refine ⟨?_, ?_, rfl, ?_, ?_, ?_⟩
  · obtain ⟨r, whole, outcome, retries⟩ := Follower.path_noHead
    obtain ⟨d, path, rest⟩ := whole.split
    have clean := stop_is_prompt_and_clean ⟨0, 10, 1, 1000⟩ Session.shortScanner
      Session.shortSchedule 3 [⟨.stopRequested, false⟩] Follower.noHead d
      (Watch.sending [.send true]) (Watch.sending [.send true])
      ((Watch.sending [.send true]).later 7 1) path (.step ⟨rfl, rfl⟩ (.here _))
      ⟨7, 1, by decide, rfl⟩
    obtain ⟨f, last, turn, stops⟩ := (clean.1 fallen (Watch.stands_raised rfl rfl)).2 _ r _ rest
      (.step ⟨rfl, rfl⟩ (.here _))
    exact ⟨r, f, last, turn, outcome, retries, stops⟩
  · have prompt := stop_is_prompt_and_clean ⟨0, 10, 1, 1000⟩ Session.shortScanner
      Session.shortSchedule 3 Follower.lowHead ⟨.wait 1000, ()⟩ d (Watch.sending [.send true])
      (Watch.sending [.send true]) ((Watch.sending [.send true]).waited 1000) path
      (Watch.through_lowHead rfl) rfl
    obtain ⟨⟨post, r, g₃, rest, behind⟩, clean⟩ := prompt.1 fallen (Watch.stands_raised rfl rfl)
    exact ⟨post, r, g₃, clean post r g₃ rest behind⟩
  · have calm := stop_is_prompt_and_clean ⟨0, 10, 1, 1000⟩ Session.shortScanner
      Session.shortSchedule 3 Follower.lowHead ⟨.wait 1000, ()⟩ d Watch.idle Watch.idle
      (Watch.idle.waited 1000) path (Watch.through_lowHead rfl) rfl
    have more : Watch.idle.MoreFalses (Watch.sending [.send false]) :=
      ⟨rfl, ⟨.initial false, [], [], .none _, rfl, rfl⟩, .extra 5 (.more rfl (.none _)) (.none _)⟩
    exact (calm.2 1000 rfl).2 _ _ more rfl
  · have brisk := stop_is_prompt_and_clean ⟨0, 10, 1, 1000⟩ Session.shortScanner
      Session.shortSchedule 3 Follower.lowHead ⟨.wait 1000, ()⟩ d (Watch.sending [.send true])
      (Watch.sending [.send true]) ((Watch.sending [.send true]).waited 1000) path
      (Watch.through_lowHead rfl) rfl
    have more : (Watch.sending [.send true]).MoreFalses (Watch.sending [.send false, .send true]) :=
      ⟨rfl, ⟨.initial false, [], [], .none _, rfl, rfl⟩,
        .moment 5 (.more rfl (.same (.none _))) (.none _)⟩
    exact (brisk.2 1000 rfl).2 _ _ more rfl
  · have alone := stop_is_prompt_and_clean ⟨0, 10, 1, 1000⟩ Session.shortScanner
      Session.shortSchedule 3 Follower.lowHead ⟨.wait 1000, ()⟩ d Watch.gone Watch.gone
      (Watch.gone.waited 1000) path (Watch.through_lowHead rfl) rfl
    exact (alone.2 1000 rfl).1 rfl rfl

/-- A pause beyond thirty years is cut there, although the sender is gone. And a flag that is
    not raised lengthens a pause if it overtakes a raised one that was not seen. -/
theorem long_pause_is_cut :
    (∃ d, Path ((Follower.patient 18446744073709551615).run 3)
        (Follower.lowHead ++ [⟨.wait 18446744073709551615, ()⟩]) d ∧
      Watch.steps.Through Watch.gone Follower.lowHead Watch.gone ∧
      Watch.gone.signal.connected = false ∧ Watch.gone.signal.raised = false ∧
      (Watch.gone.waited 18446744073709551615).now = 946080000000 ∧
      946080000000 ≠ Watch.gone.now + (18446744073709551615 : UInt64).toNat) ∧
    ((Watch.sending [.send true]).waited 1000).now = 5 ∧
    ((Watch.sending [.send true, .send false]).waited 1000).now = 1000 := by
  obtain ⟨d, path⟩ := Follower.path_lowHead 18446744073709551615
  refine ⟨⟨d, path, Watch.through_lowHead rfl, rfl, rfl, ?_, ?_⟩, rfl, rfl⟩
  · decide
  · decide

end StakeRelay
