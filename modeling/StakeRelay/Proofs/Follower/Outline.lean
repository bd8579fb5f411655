/-
  StakeRelay.Proofs.Follower.Outline — one proof outline for each part of a round.

  An outline of a dialogue names an assertion for each place between two questions and
  says what the answer to each question has to lead to. It is proved once for each
  function; what a run guarantees then follows from what its answers do to the
  assertions, and no later proof opens a function of the follower again.

  Main statements:
    * `Walk.conducts_visit` — the walk through the registry;
    * `Schedule.conducts_commitRegistry` — the registry half of a boundary;
    * `Schedule.conducts_flush` — the deposit half;
    * `Follower.conducts_turn`, `Follower.conducts_rounds` — rounds of the loop.
-/

import StakeRelay.Follower.Basic
import StakeRelay.Proofs.Dialogue.Chronicle

namespace StakeRelay

open Chronicle (AsksEntry)
open Dialogue

variable {γ : Type} {env G : Surroundings γ}

/-- Every answer to the request is allowed and keeps the assertion. -/
def Surroundings.Calm (env G : Surroundings γ) (P : γ → Prop) (r : Request) : Prop :=
  ∀ g reply g', P g → env g ⟨r, reply⟩ g' → G g ⟨r, reply⟩ g' ∧ P g'

/-- Nothing has to hold behind a failure that does not pass. -/
theorem Failure.fatal_elim {failure : Failure} (fatal : failure.isTransient = false) {p : Prop}
    (passing : failure.isTransient = true) : p := by
  rw [fatal] at passing
  cases passing

/-! ## §1. The registry -/

/-- The records of a walk are those of stakers that are staking now. -/
def Walk.Fresh (records : List StakerRecord) : Prop :=
  ∀ r ∈ records, r = StakerRecord.ofAddress r.workBase r.lockedBalance

/-- A top that a walk through some registry leads to. -/
def Walk.Ranked (top : List StakerRecord) : Prop :=
  ∃ records, Walk.Fresh records ∧ top = Ranking.top records

namespace Walk

theorem fresh_cons {r : StakerRecord} {rest : List StakerRecord}
    (h : r = StakerRecord.ofAddress r.workBase r.lockedBalance) (fresh : Fresh rest) :
    Fresh (r :: rest) := by
  intro r' member
  rcases List.mem_cons.mp member with rfl | member
  · exact h
  · exact fresh r' member

theorem conducts_readEntry {P : γ → Prop} {g : γ} (index : UInt64)
    (calm : ∀ r, AsksEntry r → env.Calm G P r) (start : P g) :
    (readEntry index).run.Conducts env G
      (fun outcome g => (∀ r, outcome = .ok r →
        r = StakerRecord.ofAddress r.workBase r.lockedBalance) ∧ P g) g := by
  rw [readEntry, conducts_attempt_bind]
  intro reply g' step
  obtain ⟨allowed, held⟩ := calm _ (.stakerAt index) g reply g' start step
  refine ⟨allowed, ?_⟩
  cases reply with
  | error failure => exact ⟨fun r h => (by cases h), held⟩
  | ok staker =>
    show ((Attempt.source (.stakerInfo staker)) >>= _ : Attempt _).run.Conducts env G _ g'
    rw [conducts_attempt_bind]
    intro reply g'' step
    obtain ⟨allowed, held⟩ := calm _ (.stakerInfo staker) g' reply g'' held step
    refine ⟨allowed, ?_⟩
    cases reply with
    | error failure => exact ⟨fun r h => (by cases h), held⟩
    | ok balance =>
      refine ⟨fun r h => ?_, held⟩
      obtain rfl : StakerRecord.ofAddress staker balance = r := by injection h
      rfl

/-- A walk asks for entries only (`AsksEntry`), and its records are those of stakers now
    (`Fresh`). -/
theorem conducts_visit {P : γ → Prop} {g : γ} (w : Walk) (size index : UInt64)
    (calm : ∀ r, AsksEntry r → env.Calm G P r) (start : P g) :
    (w.visit size index).Conducts env G (fun records g => Fresh records ∧ P g) g := by
  induction index using visit.induct w size generalizing g with
  | case1 index below ih =>
    rw [visit, dif_pos below]
    simp only [bind_eq_bind, conducts_bind]
    refine (conducts_readEntry index calm start).mono ?_
    intro outcome g given
    obtain ⟨told, held⟩ := given
    refine (ih held).mono ?_
    intro rest g given
    obtain ⟨fresh, held⟩ := given
    cases outcome with
    | error failure => exact ⟨fresh, held⟩
    | ok record => exact ⟨fresh_cons (told record rfl) fresh, held⟩
  | case2 index above =>
    rw [visit, dif_neg above]
    exact ⟨fun r member => absurd member List.not_mem_nil, start⟩

/-- One assertion `P` may hold through the whole walk. -/
theorem conducts_ranked {P : γ → Prop} {g : γ} (w : Walk) (size : UInt64)
    (calm : ∀ r, AsksEntry r → env.Calm G P r) (start : P g) :
    (w.visit size 0).Conducts env G (fun records g => Ranked (Ranking.top records) ∧ P g) g := by
  refine (conducts_visit w size 0 calm start).mono ?_
  intro records g given
  obtain ⟨fresh, held⟩ := given
  exact ⟨⟨records, fresh, rfl⟩, held⟩

/-- The records of a top (`Ranked`) are those of stakers that are staking now, too. -/
theorem Ranked.fresh {top : List StakerRecord} (ranked : Ranked top) : Fresh top := by
  obtain ⟨records, fresh, rfl⟩ := ranked
  exact fun r member => fresh r (Ranking.mem_of_mem_top member)

theorem Ranked.active {top : List StakerRecord} (ranked : Ranked top) :
    ∀ r ∈ top, r.isActive = true := by
  intro r member
  rw [ranked.fresh r member]
  rfl

theorem Ranked.length_le {top : List StakerRecord} (ranked : Ranked top) :
    top.length ≤ Ranking.topSize := by
  obtain ⟨records, -, rfl⟩ := ranked
  rw [Ranking.top, Ranking.length_best]
  exact Nat.min_le_left _ _

end Walk

/-! ## §2. Boundaries -/

namespace Schedule

/-- A refused update is never tried again: what `asSubmission` makes of it does not pass. -/
theorem asSubmission_fatal (failure : Failure) : (asSubmission failure).isTransient = false := by
  cases failure <;> rfl

/-- The registry half of a boundary. `A` holds when the size is known, `B` when the
    registry was read, whose top then satisfies `R`; `C` when the committed top is known,
    `D` when the update is out of the way, `E` when the new top is committed. -/
theorem conducts_commitRegistry {s : Schedule} {height : UInt64} {g : γ}
    {Q : Except Failure (Nat × Nat) → γ → Prop} {R : List StakerRecord → Prop}
    {A : UInt64 → γ → Prop} {B : γ → Prop}
    {C D E : List StakerRecord → List StakerRecord → γ → Prop}
    (size : ∀ reply g', env g ⟨.source .registrySize, reply⟩ g' →
      G g ⟨.source .registrySize, reply⟩ g' ∧
        match reply with
        | .ok size => A size g'
        | .error failure => Q (.error failure) g')
    (visited : ∀ size g, A size g → (s.walk.visit size 0).Conducts env G
      (fun records g => R (Ranking.top records) ∧ B g) g)
    (read : ∀ top g reply g', R top → B g →
      env g ⟨.checkpoint .readSnapshot, reply⟩ g' →
      G g ⟨.checkpoint .readSnapshot, reply⟩ g' ∧
        match reply with
        | .ok last => C top last g'
        | .error failure => Q (.error failure) g')
    (skip : ∀ top last g, top ++ Departure.departed last top = [] → C top last g →
      D top last g)
    (submit : ∀ top last g reply g', top ++ Departure.departed last top ≠ [] →
      C top last g →
      env g ⟨.submit ⟨updateCall, top ++ Departure.departed last top⟩, reply⟩ g' →
      G g ⟨.submit ⟨updateCall, top ++ Departure.departed last top⟩, reply⟩ g' ∧
        match reply with
        | .ok () => D top last g'
        | .error failure => Q (.error (asSubmission failure)) g')
    (saveTop : ∀ top last g reply g', R top → D top last g →
      env g ⟨.checkpoint (.writeSnapshot top), reply⟩ g' →
      G g ⟨.checkpoint (.writeSnapshot top), reply⟩ g' ∧
        match reply with
        | .ok () => E top last g'
        | .error failure => Q (.error failure) g')
    (saveCursor : ∀ top last g reply g', E top last g →
      env g ⟨.checkpoint (.writeCursor (Saturating.add height 1)), reply⟩ g' →
      G g ⟨.checkpoint (.writeCursor (Saturating.add height 1)), reply⟩ g' ∧
        match reply with
        | .ok () =>
          Q (.ok ((top ++ Departure.departed last top).length,
            (Departure.departed last top).length)) g'
        | .error failure => Q (.error failure) g') :
    (s.commitRegistry height).run.Conducts env G Q g := by
  -- both ways of the update, sent or skipped, go on with the same two writes
  have afterUpdate : ∀ top last g, R top → D top last g →
      (do Attempt.checkpoint (.writeSnapshot top)
          Attempt.checkpoint (.writeCursor (Saturating.add height 1))
          return ((top ++ Departure.departed last top).length,
            (Departure.departed last top).length) : Attempt (Nat × Nat)).run.Conducts
        env G Q g := by
    intro top last g ranked held
    rw [conducts_attempt_bind]
    intro reply g' step
    obtain ⟨allowed, held⟩ := saveTop top last g reply g' ranked held step
    refine ⟨allowed, ?_⟩
    cases reply with
    | error failure => exact held
    | ok _ =>
      show (Attempt.checkpoint _ >>= _ : Attempt (Nat × Nat)).run.Conducts env G _ g'
      rw [conducts_attempt_bind]
      intro reply g'' step
      obtain ⟨allowed, held⟩ := saveCursor top last g' reply g'' held step
      refine ⟨allowed, ?_⟩
      cases reply with
      | error failure => exact held
      | ok _ => exact held
  rw [commitRegistry, conducts_attempt_bind, Walk.build, conducts_attempt_bind]
  intro reply g' step
  obtain ⟨allowed, held⟩ := size reply g' step
  refine ⟨allowed, ?_⟩
  cases reply with
  | error failure => exact held
  | ok size =>
    show (ExceptT.lift (s.walk.visit size 0) : Attempt _).run.Conducts env G _ g'
    rw [attempt_lift, conducts_bind]
    refine (visited size g' held).mono ?_
    intro registry g given
    obtain ⟨ranked, held⟩ := given
    show (Attempt.checkpoint _ >>= _ : Attempt (Nat × Nat)).run.Conducts env G _ g
    rw [conducts_attempt_bind]
    intro reply g' step
    obtain ⟨allowed, held⟩ := read _ g reply g' ranked held step
    refine ⟨allowed, ?_⟩
    cases reply with
    | error failure => exact held
    | ok last =>
      show (if (Ranking.top registry ++
        Departure.departed last (Ranking.top registry)).isEmpty = true then _ else _ :
          Attempt (Nat × Nat)).run.Conducts env G Q g'
      -- an update without records is not sent
      by_cases none : Ranking.top registry ++ Departure.departed last (Ranking.top registry) = []
      · rw [if_pos (by rw [none]; rfl)]
        exact afterUpdate _ last g' ranked (skip _ last g' none held)
      · rw [if_neg (by simpa using none), conducts_attempt_bind]
        intro reply g'' step
        obtain ⟨allowed, held⟩ := submit _ last g' reply g'' none held step
        refine ⟨allowed, ?_⟩
        cases reply with
        | error failure => exact held
        | ok _ => exact afterUpdate _ last g'' ranked held

/-- The deposit half of a boundary, `flush`: nothing is asked, or the update is submitted. -/
theorem conducts_flush {e : OpenEpoch} {g : γ} {Q : Except Failure Nat × OpenEpoch → γ → Prop}
    (skip : e.records = [] → Q (.ok 0, e) g)
    (submit : e.records ≠ [] → ∀ reply g',
      env g ⟨.submit ⟨updateCall, Ranking.top e.records⟩, reply⟩ g' →
      G g ⟨.submit ⟨updateCall, Ranking.top e.records⟩, reply⟩ g' ∧
        match reply with
        | .ok () => Q (.ok (Ranking.top e.records).length, e.emptied) g'
        | .error failure => Q (.error (asSubmission failure), e) g') :
    (flush e).Conducts env G Q g := by
  unfold flush
  by_cases none : e.records = []
  · rw [if_pos (by rw [none]; rfl)]
    exact skip none
  · rw [if_neg (by simpa using none)]
    intro reply g' step
    obtain ⟨allowed, held⟩ := submit none reply g' step
    refine ⟨allowed, ?_⟩
    cases reply with
    | error failure => exact held
    | ok _ => exact held

/-- Both halves of a boundary, `settle`, one after the other. -/
theorem conducts_settle {s : Schedule} {height : UInt64} {e : OpenEpoch} {g : γ}
    {Q : Except Failure BoundaryReport × OpenEpoch → γ → Prop}
    (halves : (flush e).Conducts env G (fun flushed g =>
      match flushed with
      | (.error failure, e) => Q (.error failure, e) g
      | (.ok n, e) =>
        (s.commitRegistry height).run.Conducts env G (fun outcome g =>
          match outcome with
          | .error failure => Q (.error failure, e) g
          | .ok (submitted, stopped) => Q (.ok ⟨height, submitted, stopped, n⟩, e) g) g) g) :
    (s.settle height e).Conducts env G Q g := by
  unfold settle
  rw [bind_eq_bind, conducts_bind]
  refine halves.mono ?_
  intro done
  obtain ⟨outcome, e⟩ := done
  intro g held
  cases outcome with
  | error failure => exact held
  | ok n =>
    show (Dialogue.bind (s.commitRegistry height).run _).Conducts env G Q g
    rw [conducts_bind]
    refine Conducts.mono held ?_
    intro outcome g held
    cases outcome with
    | error failure => exact held
    | ok counts => exact held

end Schedule

/-! ## §3. Work at one height -/

/-- A height that was taken in (`absorb`) is not accepted again. -/
theorem OpenEpoch.not_accepts_absorb (e : OpenEpoch) (h : UInt64) (records : List StakerRecord) :
    (e.absorb h records).accepts h = false := by
  cases accepts : e.accepts h with
  | false => rw [absorb_of_not_accepts records accepts, accepts]
  | true =>
    rw [absorb_of_accepts records accepts]
    exact decide_eq_false (UInt64.lt_irrefl h)

/-- What holds of all deposits so far and of those of a block holds of all behind it (`absorb`). -/
theorem OpenEpoch.forall_absorb {P : StakerRecord → Prop} {e : OpenEpoch} (height : UInt64)
    (events : List DepositEvent) (old : ∀ r ∈ e.records, P r)
    (new : ∀ event ∈ events, P event.toRecord) :
    ∀ r ∈ (e.absorb height (events.map DepositEvent.toRecord)).records, P r := by
  cases accepts : e.accepts height with
  | true =>
    rw [absorb_of_accepts _ accepts]
    refine List.forall_mem_append.mpr ⟨old, fun r member => ?_⟩
    obtain ⟨event, among, rfl⟩ := List.mem_map.mp member
    exact new event among
  | false =>
    rw [absorb_of_not_accepts _ accepts]
    exact old

namespace Follower

/-- The work at one height: what a round does to the open epoch. -/
def work (scanner : Scanner) (schedule : Schedule) (height : UInt64) (e : OpenEpoch) :
    Dialogue (Except Failure (Option BoundaryReport) × OpenEpoch) := do
  match ← (scanner.scan height).run with
  | .error failure => return (.error failure, e)
  | .ok events =>
    let e := e.absorb height (events.map DepositEvent.toRecord)
    if schedule.isBoundary height then
      let (outcome, e) ← schedule.settle height e
      return (outcome.map some, e)
    else return (.ok none, e)

/-- To `process` a height is the `work` there, and nothing else of the follower changes. -/
theorem process_eq (f : Follower) :
    f.process = (work f.scanner f.schedule f.current f.epoch).bind fun done =>
      .done (done.1, { f with epoch := done.2 }) := by
  unfold process work
  simp only [bind_eq_bind, bind_assoc]
  -- the phase changes on the way, but no part of the work looks at it
  congr 1
  funext outcome
  cases outcome with
  | error failure => rfl
  | ok events =>
    simp only
    split
    · simp only [bind_assoc]
      rfl
    · rfl

/-- The `work` at a height: the scan, then the boundary if there is one. -/
theorem conducts_work {scanner : Scanner} {schedule : Schedule} {height : UInt64}
    {e : OpenEpoch} {g : γ} {Q : Except Failure (Option BoundaryReport) × OpenEpoch → γ → Prop}
    (scan : ∀ reply g',
      env g ⟨.source (.logs (.ofBlock scanner.contract scanner.topic height)), reply⟩ g' →
      G g ⟨.source (.logs (.ofBlock scanner.contract scanner.topic height)), reply⟩ g' ∧
        match reply with
        | .error failure => Q (.error failure, e) g'
        | .ok logs =>
          match Scanner.decodeFrom height 0 logs with
          | .error failure => Q (.error failure, e) g'
          | .ok events =>
            if schedule.isBoundary height then
              (schedule.settle height (e.absorb height (events.map DepositEvent.toRecord))).Conducts
                env G (fun done g => Q (done.1.map some, done.2) g) g'
            else Q (.ok none, e.absorb height (events.map DepositEvent.toRecord)) g') :
    (work scanner schedule height e).Conducts env G Q g := by
  unfold work
  rw [bind_eq_bind, conducts_bind, Scanner.scan, conducts_attempt_bind]
  intro reply g' step
  obtain ⟨allowed, held⟩ := scan reply g' step
  refine ⟨allowed, ?_⟩
  cases reply with
  | error failure => exact held
  | ok logs =>
    simp only [conducts_done, ExceptT.run_mk] at held ⊢
    cases found : Scanner.decodeFrom height 0 logs with
    | error failure =>
      rw [found] at held
      exact held
    | ok events =>
      rw [found] at held
      simp only at held
      by_cases boundary : schedule.isBoundary height = true
      · rw [if_pos boundary] at held
        simp only [if_pos boundary]
        rw [bind_eq_bind, conducts_bind]
        exact held
      · rw [if_neg boundary] at held
        simp only [if_neg boundary]
        exact held

/-! ## §4. Rounds -/

/-- The parts of a follower that no round changes. -/
def SameCourse (f f' : Follower) : Prop :=
  f'.settings = f.settings ∧ f'.scanner = f.scanner ∧ f'.schedule = f.schedule

/-- Where a round that goes on leaves the loop: at the same height with `K`, or one
    height further with `N`. -/
def Onward (K N : OpenEpoch → γ → Prop) (f : Follower) (t : Turn) (g : γ) : Prop :=
  t.outcome = none → SameCourse f t.follower ∧
    ((t.follower.current = f.current ∧ K t.follower.epoch g) ∨
      (t.follower.current = f.current + 1 ∧ N t.follower.epoch g))

/-- What a round comes to. Only a follower with a retry left goes on, and one that stops as
    it was asked to stands where it stood. -/
structure Comes (K N : OpenEpoch → γ → Prop) (f : Follower) (t : Turn) (g : γ) : Prop where
  onward : Onward K N f t g
  lively : t.outcome = none → f.retriesLeft ≠ 0
  graceful : t.outcome = some (.ok ()) → t.follower.current = f.current ∧ K t.follower.epoch g

theorem enter_eq {f f' : Follower} {phase : Phase} (h : f.enter phase = .ok f') :
    f' = { f with phase := phase } := by
  unfold enter Phase.pass at h
  split at h
  · injection h with h
    exact h.symm
  · cases h

section Comes

variable {K N : OpenEpoch → γ → Prop} {f f' : Follower} {g : γ}

/-- Nothing has to hold behind a round that fails (`Comes`). -/
theorem comes_failure {t : Turn} {failure : Failure} (failed : t.outcome = some (.error failure)) :
    Comes K N f t g := by
  constructor
  all_goals
    intro h
    rw [failed] at h
    cases h

theorem comes_stop_error (failure : Failure) : Comes K N f (f'.stop (.error failure)) g := by
  unfold stop
  split <;> exact comes_failure rfl

theorem comes_stop_ok (held : K f.epoch g) : Comes K N f (f.stop (.ok ())) g := by
  unfold stop
  split
  · rename_i f'' entered
    obtain rfl := enter_eq entered
    exact ⟨nofun, nofun, fun _ => ⟨rfl, held⟩⟩
  · exact comes_failure rfl

theorem comes_goOn (phase : Phase) (lively : f.retriesLeft ≠ 0) (course : SameCourse f f')
    (height : f'.current = f.current) (held : K f'.epoch g) :
    Comes K N f (f'.goOn phase) g := by
  unfold goOn
  split
  · rename_i f'' entered
    obtain rfl := enter_eq entered
    exact ⟨fun _ => ⟨course, .inl ⟨height, held⟩⟩, fun _ => lively, nofun⟩
  · exact comes_failure rfl

/-- Spending a retry, `retryAfter`, keeps what holds at the height, if the failure may pass. -/
theorem conducts_retryAfter (failure : Failure) (paused : ∀ e ms, env.Calm G (K e) (.wait ms))
    (lively : f.retriesLeft ≠ 0) (course : SameCourse f f') (height : f'.current = f.current)
    (held : failure.isTransient = true → K f'.epoch g) :
    (f'.retryAfter failure).Conducts env G (Comes K N f) g := by
  unfold retryAfter
  by_cases passing : failure.isTransient = true
  · rw [if_pos passing]
    simp only
    split
    · exact comes_failure rfl
    -- a retry is left: the follower stays at the height, with a pause if one is set
    · rename_i f'' entered
      obtain rfl := enter_eq entered
      split
      · intro reply g' step
        obtain ⟨allowed, held⟩ := paused _ _ g reply g' (held passing) step
        exact ⟨allowed, comes_goOn .polling lively course height held⟩
      · exact comes_goOn .polling lively course height (held passing)
  -- a failure that does not pass stops the follower, so there is no next round
  · rw [if_neg passing]
    exact comes_stop_error failure

/-- One round. `K` holds while the height stays, `C` when it is found to be confirmed, and
    `N` when it is done. -/
theorem conducts_turn {C : OpenEpoch → γ → Prop}
    (asked : ∀ e, env.Calm G (K e) .stopRequested)
    (polled : ∀ e g reply g', K e g → env g ⟨.source .head, reply⟩ g' →
      G g ⟨.source .head, reply⟩ g' ∧ K e g' ∧
        ∀ head, reply = .ok head → f.retriesLeft ≠ 0 → f.confirmedAt ≤ head → C e g')
    (paused : ∀ e ms, env.Calm G (K e) (.wait ms))
    (worked : ∀ e g, C e g → (work f.scanner f.schedule f.current e).Conducts env G
      (fun done g =>
        match done.1 with
        | .ok _ => N done.2 g
        | .error failure => failure.isTransient = true → K done.2 g) g)
    (start : K f.epoch g) : f.turn.Conducts env G (Comes K N f) g := by
  unfold turn
  rw [bind_eq_bind, conducts_bind]
  intro stop g₁ step
  obtain ⟨allowed, held⟩ := asked _ g stop g₁ start step
  refine ⟨allowed, ?_⟩
  show (if stop = true then _ else _ : Dialogue Turn).Conducts env G _ g₁
  split
  · exact comes_stop_ok held
  split
  · exact comes_stop_error _
  rename_i lively
  rw [bind_eq_bind, conducts_bind]
  intro reply g₂ step
  obtain ⟨allowed, held, confirmed⟩ := polled _ g₁ reply g₂ held step
  refine ⟨allowed, ?_⟩
  cases reply with
  | error failure =>
    exact conducts_retryAfter failure paused lively ⟨rfl, rfl, rfl⟩ rfl fun _ => held
  | ok head =>
    show (if head < f.confirmedAt then _ else _ : Dialogue Turn).Conducts env G _ g₂
    split
    · rw [bind_eq_bind, conducts_bind]
      intro reply g₃ step
      obtain ⟨allowed, held⟩ := paused _ _ g₂ reply g₃ held step
      exact ⟨allowed, fun _ => ⟨⟨rfl, rfl, rfl⟩, .inl ⟨rfl, held⟩⟩, fun _ => lively, nofun⟩
    · rename_i enough
      have held := confirmed head rfl lively (UInt64.not_lt.mp enough)
      unfold advance
      split
      · exact comes_failure rfl
      · rename_i f' entered
        obtain rfl := enter_eq entered
        rw [bind_eq_bind, conducts_bind, process_eq, conducts_bind]
        -- from here on the round is the work at the height and what its outcome leads to
        refine (worked _ g₂ held).mono ?_
        intro done
        obtain ⟨outcome, e⟩ := done
        intro g₃ held
        cases outcome with
        | error failure =>
          exact conducts_retryAfter failure paused lively ⟨rfl, rfl, rfl⟩ rfl held
        | ok committed =>
          rw [conducts_done]
          simp only
          split
          · exact comes_failure rfl
          · rename_i f'' entered
            obtain rfl := enter_eq entered
            exact ⟨fun _ => ⟨⟨rfl, rfl, rfl⟩, .inr ⟨rfl, held⟩⟩, fun _ => lively, nofun⟩

end Comes

/-- A follower that may process its height as often as it is set. -/
structure Ready (f : Follower) : Prop where
  polling : f.phase = .polling
  retries : f.retriesLeft = f.settings.retryLimit

/-- A round that nothing holds up, since no stop is requested, the height is confirmed and
    the work there comes to a result. It passes the height. -/
theorem conducts_turn_ahead {f : Follower} (ready : f.Ready) (lively : f.settings.retryLimit ≠ 0)
    (unasked : ∀ g stop g', env g ⟨.stopRequested, stop⟩ g' →
      G g ⟨.stopRequested, stop⟩ g' ∧ stop = false)
    (confirmed : ∀ g reply g', env g ⟨.source .head, reply⟩ g' →
      G g ⟨.source .head, reply⟩ g' ∧ ∃ head, reply = .ok head ∧ f.confirmedAt ≤ head)
    (worked : ∀ g, (work f.scanner f.schedule f.current f.epoch).Conducts env G
      (fun done _ => ∃ report, done.1 = .ok report) g) (g : γ) :
    f.turn.Conducts env G (fun t _ => t.outcome = none ∧ SameCourse f t.follower ∧
      t.follower.current = f.current + 1 ∧ t.follower.Ready) g := by
  obtain ⟨polling, retries⟩ := ready
  unfold turn
  rw [bind_eq_bind, conducts_bind]
  intro stop g₁ step
  obtain ⟨allowed, rfl⟩ := unasked g stop g₁ step
  refine ⟨allowed, ?_⟩
  show (if f.retriesLeft = 0 then _ else _ : Dialogue Turn).Conducts env G _ g₁
  rw [if_neg (retries ▸ lively), bind_eq_bind, conducts_bind]
  intro reply g₂ step
  obtain ⟨allowed, head, rfl, enough⟩ := confirmed g₁ reply g₂ step
  refine ⟨allowed, ?_⟩
  show (if head < f.confirmedAt then _ else _ : Dialogue Turn).Conducts env G _ g₂
  -- nothing held the round up so far: what follows is the work itself
  have entered : f.enter .processing = .ok { f with phase := .processing } := by
    unfold enter Phase.pass
    rw [polling]
    rfl
  rw [if_neg (UInt64.not_lt.mpr enough), advance, entered]
  simp only
  rw [bind_eq_bind, conducts_bind, process_eq, conducts_bind]
  refine (worked g₂).mono ?_
  intro done
  obtain ⟨outcome, e⟩ := done
  intro g₃ result
  obtain ⟨report, rfl⟩ := result
  exact ⟨rfl, ⟨rfl, rfl, rfl⟩, rfl, rfl, rfl⟩

/-- Any number of rounds. `J` holds of the open epoch and the height at every loop top, and
    where the follower stops as it was asked to; `C` when a height is found to be confirmed.
    `R` is what a retry that is left shows of the settings. -/
theorem conducts_rounds {J C : OpenEpoch → UInt64 → γ → Prop} {R : Prop}
    {settings : FollowerSettings} {scanner : Scanner} {schedule : Schedule}
    (asked : ∀ e h, env.Calm G (J e h) .stopRequested)
    (polled : ∀ e h g reply g', J e h g → env g ⟨.source .head, reply⟩ g' →
      G g ⟨.source .head, reply⟩ g' ∧ J e h g' ∧
        ∀ head, reply = .ok head → R → Saturating.add h settings.confirmations ≤ head →
          C e h g')
    (paused : ∀ e h ms, env.Calm G (J e h) (.wait ms))
    (worked : ∀ e h g, C e h g → (work scanner schedule h e).Conducts env G
      (fun done g =>
        match done.1 with
        | .ok _ => J done.2 (h + 1) g
        | .error failure => failure.isTransient = true → J done.2 h g) g)
    (n : Nat) (f : Follower) (course : f.settings = settings ∧ f.scanner = scanner ∧
      f.schedule = schedule) (lively : f.retriesLeft ≠ 0 → R) (g : γ)
    (start : J f.epoch f.current g) :
    (turns n f).Conducts env G (fun r g => r.outcome = none ∨ r.outcome = some (.ok ()) →
      J r.follower.epoch r.follower.current g) g := by
  -- induction on the rounds; `J` holds at every loop top
  induction n generalizing f g with
  | zero => exact fun _ => start
  | succ n ih =>
    obtain ⟨rfl, rfl, rfl⟩ := course
    unfold turns
    rw [bind_eq_bind, conducts_bind]
    refine (conducts_turn (K := fun e => J e f.current) (C := fun e => C e f.current)
      (N := fun e => J e (f.current + 1)) (fun e => asked e _) ?_ (fun e => paused e _)
      (fun e g held => worked e _ g held) start).mono ?_
    · intro e g reply g' held step
      obtain ⟨allowed, held, confirmed⟩ := polled e _ g reply g' held step
      exact ⟨allowed, held, fun head told left => confirmed head told (lively left)⟩
    · intro t g comes
      cases ended : t.outcome with
      | some outcome =>
        intro finished
        simp only [reduceCtorEq, Option.some.injEq, false_or] at finished
        obtain ⟨height, held⟩ := comes.graceful (by rw [ended, finished])
        exact height ▸ held
      | none =>
        obtain ⟨⟨settings, course, course'⟩, place⟩ := comes.onward ended
        have left := lively (comes.lively ended)
        have held : J t.follower.epoch t.follower.current g := by
          rcases place with ⟨height, held⟩ | ⟨height, held⟩
          · exact height ▸ held
          · exact height ▸ held
        simp only
        rw [bind_eq_bind, conducts_bind]
        exact (ih t.follower ⟨settings, course, course'⟩ (fun _ => left) g held).mono
          fun r g ends => ends

/-- Any number of rounds that are not held to anything but `J`. -/
theorem conducts_turns {J : OpenEpoch → UInt64 → γ → Prop} {scanner : Scanner}
    {schedule : Schedule}
    (asked : ∀ e h, env.Calm G (J e h) .stopRequested)
    (polled : ∀ e h, env.Calm G (J e h) (.source .head))
    (paused : ∀ e h ms, env.Calm G (J e h) (.wait ms))
    (worked : ∀ e h g, J e h g → (work scanner schedule h e).Conducts env G
      (fun done g =>
        match done.1 with
        | .ok _ => J done.2 (h + 1) g
        | .error failure => failure.isTransient = true → J done.2 h g) g)
    (n : Nat) (f : Follower) (sc : f.scanner = scanner) (sd : f.schedule = schedule) (g : γ)
    (start : J f.epoch f.current g) :
    (turns n f).Conducts env G (fun _ _ => True) g := by
  refine (conducts_rounds (C := J) (R := True) asked ?_ paused worked n f ⟨rfl, sc, sd⟩
    (fun _ => trivial) g start).mono fun _ _ _ => trivial
  intro e h g reply g' held step
  obtain ⟨allowed, held⟩ := polled e h g reply g' held step
  exact ⟨allowed, held, fun _ _ _ _ => held⟩

/-- A run is rounds (`turns`), or nothing. -/
theorem conducts_run {n : Nat} {f : Follower} {g : γ}
    (rounds : (turns n f).Conducts env G (fun _ _ => True) g) :
    (run n f).Conducts env G (fun _ _ => True) g := by
  unfold run
  split
  · trivial
  · exact rounds

/-- Resuming reads the cursor once and goes on at `max cursor start`. -/
theorem conducts_resumeHeight {start : UInt64} {g : γ} {Q : Except Failure UInt64 → γ → Prop}
    (read : ∀ reply g', env g ⟨.checkpoint .readCursor, reply⟩ g' →
      G g ⟨.checkpoint .readCursor, reply⟩ g' ∧
        match reply with
        | .ok cursor => Q (.ok (max cursor start)) g'
        | .error failure => Q (.error failure) g') :
    (resumeHeight start).run.Conducts env G Q g := by
  rw [resumeHeight, conducts_attempt_bind]
  intro reply g' step
  obtain ⟨allowed, held⟩ := read reply g' step
  refine ⟨allowed, ?_⟩
  cases reply with
  | error failure => exact held
  | ok cursor => exact held

end Follower

end StakeRelay
