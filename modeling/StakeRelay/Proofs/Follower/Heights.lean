/-
  StakeRelay.Proofs.Follower.Heights — heights are taken one by one, behind the head.

  A log query opens the visit of a height. From the exchanges alone one can tell how far a
  walk has come: the last visit was of the height that is current now, or it was of the
  height before and all the work there was done. Nothing else lets the walk go on, so no
  height is left out, however often the calls at a height fail.

  A block is asked for directly behind an answer of the source chain that tells a head far
  enough above it. An earlier head does not count, even if it was higher.

  Main statement: `heights_in_order`.
-/

import StakeRelay.Proofs.Follower.Session
import StakeRelay.Proofs.Number.Words

namespace StakeRelay

open Dialogue

/-! ## §1. Visits -/

/-- Whether the source chain is asked. -/
def Request.asksSource : Request → Bool
  | .source _ => true
  | _ => false

/-- The last exchange with the source chain. -/
def lastOfSource (t : List Exchange) : Option Exchange :=
  (t.filter fun x => x.request.asksSource).getLast?

/-- A visit after one more exchange. Before the first log query there is none. -/
def visitAfter (visit : List Exchange) (x : Exchange) : List Exchange :=
  if x.request.opensVisit then [x]
  else
    match visit with
    | [] => []
    | y :: ys => y :: (ys ++ [x])

/-- The exchanges from the last log query on. -/
def visitOf (t : List Exchange) : List Exchange := t.foldl visitAfter []

/-- The visit in `t ++ [x]` is that in `t`, and then `x`. -/
theorem visitOf_concat (t : List Exchange) (x : Exchange) :
    visitOf (t ++ [x]) = visitAfter (visitOf t) x := by
  rw [visitOf, List.foldl_append]
  rfl

/-- A log query begins a visit of its own (`opensVisit`). -/
theorem visitAfter_opens {x : Exchange} (opens : x.request.opensVisit = true)
    (visit : List Exchange) : visitAfter visit x = [x] := if_pos opens

/-- Before the first one there is no visit, `[]`. -/
theorem visitAfter_nil {x : Exchange} (goesOn : x.request.opensVisit = false) :
    visitAfter [] x = [] := by
  unfold visitAfter
  rw [goesOn]
  rfl

/-- Any other exchange `x` goes on with the visit. -/
theorem visitAfter_cons {x : Exchange} (goesOn : x.request.opensVisit = false) (y : Exchange)
    (ys : List Exchange) : visitAfter (y :: ys) x = y :: ys ++ [x] := by
  unfold visitAfter
  rw [goesOn]
  rfl

theorem foldl_visitAfter_cons {mid : List Exchange}
    (goesOn : ∀ x ∈ mid, x.request.opensVisit = false) (y : Exchange) (ys : List Exchange) :
    mid.foldl visitAfter (y :: ys) = y :: ys ++ mid := by
  induction mid generalizing ys with
  | nil => simp
  | cons x mid ih =>
    have later := ih (fun x' member => goesOn x' (List.mem_cons_of_mem _ member)) (ys ++ [x])
    rw [List.foldl_cons, visitAfter_cons (goesOn x List.mem_cons_self), List.cons_append, later]
    simp

/-- The visit that the last log query `x` opened is `x` and all that followed it. -/
theorem visitOf_split {x : Exchange} {mid : List Exchange} (pre : List Exchange)
    (opens : x.request.opensVisit = true) (goesOn : ∀ y ∈ mid, y.request.opensVisit = false) :
    visitOf (pre ++ x :: mid) = x :: mid := by
  rw [visitOf, List.foldl_append, List.foldl_cons, visitAfter_opens opens,
    foldl_visitAfter_cons goesOn]
  rfl

/-- Where no log query was made there is no visit. -/
theorem visitOf_none {t : List Exchange} (goesOn : ∀ x ∈ t, x.request.opensVisit = false) :
    visitOf t = [] := by
  unfold visitOf
  induction t with
  | nil => rfl
  | cons x t ih =>
    rw [List.foldl_cons, visitAfter_nil (goesOn x List.mem_cons_self)]
    exact ih fun y member => goesOn y (List.mem_cons_of_mem _ member)

/-! ## §2. How far a walk has come -/

/-- All the work at a height was done in the visit: its block was told and its logs are events,
    processing it came to a result, and at a boundary the new top was committed and then the
    cursor behind the height. -/
structure Completed (scanner : Scanner) (schedule : Schedule) (height : UInt64)
    (visit : List Exchange) : Prop where
  scanned : ∃ logs events rest, Scanner.decodeFrom height 0 logs = .ok events ∧
    visit = ⟨.source (.logs (.ofBlock scanner.contract scanner.topic height)), .ok logs⟩ :: rest
  processed : ∃ (f f' : Follower) (report : Option BoundaryReport) (work rest : List Exchange),
    f.scanner = scanner ∧ f.schedule = schedule ∧ f.current = height ∧ visit = work ++ rest ∧
      Path f.process work (.done (.ok report, f'))
  committed : schedule.isBoundary height = true → ∃ (work rest : List Exchange)
    (top : List StakerRecord), visit = work ++ [⟨.checkpoint (.writeSnapshot top), .ok ()⟩,
      ⟨.checkpoint (.writeCursor (Saturating.add height 1)), .ok ()⟩] ++ rest

/-- A visit that is `Completed` stays so, whatever follows. -/
theorem Completed.append {scanner : Scanner} {schedule : Schedule} {height : UInt64}
    {visit : List Exchange} (completed : Completed scanner schedule height visit)
    (more : List Exchange) : Completed scanner schedule height (visit ++ more) := by
  obtain ⟨⟨logs, events, behind, decoded, opened⟩,
    ⟨f, f', report, work, rest, course, course', at_height, split, path⟩, committed⟩ := completed
  refine ⟨⟨logs, events, behind ++ more, decoded, by rw [opened, List.cons_append]⟩,
    ⟨f, f', report, work, rest ++ more, course, course', at_height, ?_, path⟩, ?_⟩
  · rw [split, List.append_assoc]
  · intro boundary
    obtain ⟨work, rest, top, split⟩ := committed boundary
    exact ⟨work, rest ++ more, top, by rw [split, List.append_assoc]⟩

/-- `Reached start scanner schedule height t`: after the exchanges `t` the walk from `start`
    is at the height. -/
inductive Reached (start : UInt64) (scanner : Scanner) (schedule : Schedule) :
    UInt64 → List Exchange → Prop
  /-- No height was visited yet. -/
  | first {t : List Exchange} (none : visitOf t = []) : Reached start scanner schedule start t
  /-- The height is visited, and its work may not be done. -/
  | again {t mid : List Exchange} {filter : LogFilter} {reply : Except Failure (List RawLog)}
      (visit : visitOf t = ⟨.source (.logs filter), reply⟩ :: mid) :
      Reached start scanner schedule filter.last t
  /-- The work at the height before is done. -/
  | next {t mid : List Exchange} {filter : LogFilter} {reply : Except Failure (List RawLog)}
      (visit : visitOf t = ⟨.source (.logs filter), reply⟩ :: mid)
      (completed : Completed scanner schedule filter.last
        (⟨.source (.logs filter), reply⟩ :: mid)) :
      Reached start scanner schedule (filter.last + 1) t

/-- The source chain's last answer tells a head that confirms the height. -/
def Confirmed (depth height : UInt64) (t : List Exchange) : Prop :=
  ∃ head : UInt64, lastOfSource t = some ⟨.source .head, .ok head⟩ ∧
    Saturating.add height depth ≤ head

section Steps

variable {settings : FollowerSettings} {scanner : Scanner} {schedule : Schedule} {h : UInt64}
  {t : List Exchange}

/-- Only a log query changes how far the walk has come, so `Reached` stays. -/
theorem Reached.goesOn {x : Exchange} (reached : Reached settings.start scanner schedule h t)
    (other : x.request.opensVisit = false) :
    Reached settings.start scanner schedule h (t ++ [x]) := by
  have visited := visitOf_concat t x
  -- the exchange joins the visit, if there is one
  cases reached with
  | first none =>
    rw [none, visitAfter_nil other] at visited
    exact .first visited
  | again visit =>
    rw [visit, visitAfter_cons other] at visited
    exact .again visited
  | next visit completed =>
    rw [visit, visitAfter_cons other] at visited
    exact .next visited (completed.append [x])

/-- What has to hold where a block is asked for. -/
structure Asked (settings : FollowerSettings) (scanner : Scanner) (schedule : Schedule)
    (filter : LogFilter) (t : List Exchange) : Prop where
  single : filter.first = filter.last
  reached : Reached settings.start scanner schedule filter.last t
  confirmed : Confirmed settings.confirmations filter.last t

/-- The steps of an orderly walk. -/
def OrderStep (settings : FollowerSettings) (scanner : Scanner) (schedule : Schedule) :
    Surroundings (List Exchange) :=
  fun t x _ => ∀ filter, x.request = .source (.logs filter) →
    Asked settings scanner schedule filter t

/-- An exchange that is no log query is in order (`OrderStep`). -/
theorem OrderStep.idle {x : Exchange} {t' : List Exchange}
    (other : x.request.opensVisit = false) : OrderStep settings scanner schedule t x t' := by
  intro filter asks
  rw [asks] at other
  cases other

/-- And a request that is none keeps `Reached`. -/
theorem calm_reached (r : Request) (other : r.opensVisit = false) :
    recording.Calm (OrderStep settings scanner schedule)
      (Reached settings.start scanner schedule h) r := by
  intro t reply t' reached step
  obtain rfl := eq_of_recording step
  exact ⟨.idle other, reached.goesOn other⟩

/-! ## §3. The work at a height -/

/-- The visit that the query `q` opened behind the exchanges `pre`. -/
def Visiting (pre : List Exchange) (q : Exchange) (t : List Exchange) : Prop :=
  ∃ mid, t = pre ++ q :: mid ∧ ∀ x ∈ mid, x.request.opensVisit = false

variable {pre : List Exchange} {q : Exchange}

/-- Such an exchange goes on with the visit of `q`. -/
theorem Visiting.goesOn {x : Exchange} (visiting : Visiting pre q t)
    (other : x.request.opensVisit = false) : Visiting pre q (t ++ [x]) := by
  obtain ⟨mid, rfl, quiet⟩ := visiting
  refine ⟨mid ++ [x], by simp, fun y member => ?_⟩
  rcases List.mem_append.mp member with early | late
  · exact quiet y early
  · rw [List.mem_singleton.mp late]
    exact other

/-- The visit of a log query `q` is `q` and all that followed it. -/
theorem Visiting.visitOf (visiting : Visiting pre q t) (opens : q.request.opensVisit = true) :
    ∃ mid, t = pre ++ q :: mid ∧ visitOf t = q :: mid := by
  obtain ⟨mid, rfl, quiet⟩ := visiting
  exact ⟨mid, rfl, visitOf_split pre opens quiet⟩

/-- The visit ends with the commit of a boundary. -/
def Committing (pre : List Exchange) (q : Exchange) (height : UInt64) (t : List Exchange) :
    Prop :=
  ∃ mid top, t = pre ++ q :: mid ++ [⟨.checkpoint (.writeSnapshot top), .ok ()⟩,
    ⟨.checkpoint (.writeCursor (Saturating.add height 1)), .ok ()⟩]

/-- So requests that are no log query keep `Visiting`. -/
theorem calm_visiting (r : Request) (other : r.opensVisit = false) :
    recording.Calm (OrderStep settings scanner schedule) (Visiting pre q) r := by
  intro t reply t' visiting step
  obtain rfl := eq_of_recording step
  exact ⟨.idle other, visiting.goesOn other⟩

/-- The registry half of a boundary goes on with the visit, and ends it with the commit of `h`
    if it comes to a result (`Committing`). -/
theorem conducts_commit_ordered (visiting : Visiting pre q t) :
    (schedule.commitRegistry h).run.Conducts recording (OrderStep settings scanner schedule)
      (fun outcome t =>
        Visiting pre q t ∧ ∀ counts, outcome = .ok counts → Committing pre q h t) t := by
  refine Schedule.conducts_commitRegistry (R := fun _ => True) (A := fun _ => Visiting pre q)
    (B := Visiting pre q) (C := fun _ _ => Visiting pre q) (D := fun _ _ => Visiting pre q)
    (E := fun top _ t => Visiting pre q t ∧
      ∃ mid, t = pre ++ q :: mid ++ [⟨.checkpoint (.writeSnapshot top), .ok ()⟩])
    ?size ?visited ?read ?skip ?submit ?saveTop ?saveCursor
  case size =>
    intro reply t' step
    obtain ⟨allowed, visiting⟩ := calm_visiting (.source .registrySize) rfl t reply t' visiting step
    refine ⟨allowed, ?_⟩
    cases reply with
    | ok size => exact visiting
    | error failure => exact ⟨visiting, nofun⟩
  case visited =>
    intro size t visiting
    refine (Walk.conducts_ranked _ _ (fun r asks => ?_) visiting).mono fun _ _ held =>
      ⟨trivial, held.2⟩
    exact calm_visiting r asks.silent.goesOn
  case read =>
    intro top t reply t' _ visiting step
    obtain ⟨allowed, visiting⟩ :=
      calm_visiting (.checkpoint .readSnapshot) rfl t reply t' visiting step
    refine ⟨allowed, ?_⟩
    cases reply with
    | ok last => exact visiting
    | error failure => exact ⟨visiting, nofun⟩
  case skip => exact fun _ _ _ _ visiting => visiting
  case submit =>
    intro top last t reply t' _ visiting step
    obtain ⟨allowed, visiting⟩ := calm_visiting (.submit _) rfl t reply t' visiting step
    refine ⟨allowed, ?_⟩
    cases reply with
    | ok _ => exact visiting
    | error failure => exact ⟨visiting, nofun⟩
  case saveTop =>
    intro top last t reply t' _ visiting step
    have before := visiting
    obtain ⟨allowed, visiting⟩ :=
      calm_visiting (.checkpoint (.writeSnapshot top)) rfl t reply t' visiting step
    refine ⟨allowed, ?_⟩
    cases reply with
    | ok _ =>
      -- the snapshot is the last exchange so far, and only the cursor is missing
      obtain ⟨mid, whole, -⟩ := before
      exact ⟨visiting, mid, whole ▸ eq_of_recording step⟩
    | error failure => exact ⟨visiting, nofun⟩
  case saveCursor =>
    intro top last t reply t' given step
    obtain ⟨visiting, mid, rfl⟩ := given
    obtain ⟨allowed, visiting⟩ := calm_visiting (.checkpoint (.writeCursor (Saturating.add h 1)))
      rfl _ reply t' visiting step
    refine ⟨allowed, ?_⟩
    cases reply with
    | ok _ =>
      refine ⟨visiting, fun _ _ => ⟨mid, top, ?_⟩⟩
      obtain rfl := eq_of_recording step
      simp
    | error failure => exact ⟨visiting, nofun⟩

/-- The deposit half of a boundary goes on with the visit of `q`. -/
theorem conducts_flush_ordered {e : OpenEpoch} (visiting : Visiting pre q t) :
    (Schedule.flush e).Conducts recording (OrderStep settings scanner schedule)
      (fun _ t => Visiting pre q t) t := by
  refine Schedule.conducts_flush (fun _ => visiting) fun _ reply t' step => ?_
  obtain ⟨allowed, visiting⟩ := calm_visiting (.submit _) rfl t reply t' visiting step
  refine ⟨allowed, ?_⟩
  cases reply with
  | ok _ => exact visiting
  | error failure => exact visiting

/-- The `work` at a height asks for its block and opens no other visit. It comes to a result
    only if the logs of the block are events, and at a boundary what was to be done there is
    done. -/
theorem conducts_work_visiting {e : OpenEpoch} (asked : Asked settings scanner schedule
      (.ofBlock scanner.contract scanner.topic h) t) :
    (Follower.work scanner schedule h e).Conducts recording
      (OrderStep settings scanner schedule)
      (fun done t' => ∃ reply,
        Visiting t ⟨.source (.logs (.ofBlock scanner.contract scanner.topic h)), reply⟩ t' ∧
        ∀ report, done.1 = .ok report →
          (∃ logs events, reply = .ok logs ∧ Scanner.decodeFrom h 0 logs = .ok events) ∧
          (schedule.isBoundary h = true → Committing t
            ⟨.source (.logs (.ofBlock scanner.contract scanner.topic h)), reply⟩ h t')) t := by
  refine Follower.conducts_work fun reply t' step => ?_
  have visiting : Visiting t
      ⟨.source (.logs (.ofBlock scanner.contract scanner.topic h)), reply⟩ t' := ⟨[], step, nofun⟩
  have allowed : OrderStep settings scanner schedule t
      ⟨.source (.logs (.ofBlock scanner.contract scanner.topic h)), reply⟩ t' := by
    intro filter same
    injection same with same
    injection same with same
    exact same ▸ asked
  refine ⟨allowed, ?_⟩
  cases reply with
  | error failure => exact ⟨_, visiting, nofun⟩
  | ok logs =>
    simp only
    cases decoded : Scanner.decodeFrom h 0 logs with
    | error failure => exact ⟨_, visiting, nofun⟩
    | ok events =>
      simp only
      -- the visit goes on through both halves, and only a commit makes it complete
      by_cases boundary : schedule.isBoundary h = true
      · rw [if_pos boundary]
        refine Schedule.conducts_settle ((conducts_flush_ordered visiting).mono ?_)
        intro done
        obtain ⟨flushed, e'⟩ := done
        intro t₂ visiting
        cases flushed with
        | error failure => exact ⟨_, visiting, nofun⟩
        | ok n =>
          refine (conducts_commit_ordered visiting).mono ?_
          intro outcome t₃ given
          obtain ⟨visiting, committed⟩ := given
          cases outcome with
          | error failure => exact ⟨_, visiting, nofun⟩
          | ok counts =>
            exact ⟨_, visiting, fun _ _ =>
              ⟨⟨logs, events, rfl, decoded⟩, fun _ => committed counts rfl⟩⟩
      · rw [if_neg boundary]
        exact ⟨_, visiting, fun _ _ =>
          ⟨⟨logs, events, rfl, decoded⟩, fun ends => absurd ends boundary⟩⟩

/-- The work at a height leads to the next one if it comes to a result, and leaves the walk
    `Reached` at the height if it fails. -/
theorem conducts_work_ordered {e : OpenEpoch}
    (reached : Reached settings.start scanner schedule h t)
    (confirmed : Confirmed settings.confirmations h t) :
    (Follower.work scanner schedule h e).Conducts recording
      (OrderStep settings scanner schedule)
      (fun done t' =>
        match done.1 with
        | .ok _ => Reached settings.start scanner schedule (h + 1) t'
        | .error failure => failure.isTransient = true →
          Reached settings.start scanner schedule h t') t := by
  refine (conducts_work_visiting ⟨rfl, reached, confirmed⟩).recorded.mono ?_
  intro done
  obtain ⟨outcome, e'⟩ := done
  intro t' given
  obtain ⟨⟨reply, visiting, comes⟩, work, whole, path⟩ := given
  obtain ⟨mid, split, visit⟩ := visiting.visitOf rfl
  cases outcome with
  | error failure => exact fun _ => .again visit
  | ok report =>
    -- the visit is just what the work went through
    have same : work = ⟨.source (.logs (.ofBlock scanner.contract scanner.topic h)), reply⟩ :: mid :=
      List.append_cancel_left (whole.symm.trans split)
    obtain ⟨⟨logs, events, told, decoded⟩, committed⟩ := comes report rfl
    refine Reached.next visit ⟨⟨logs, events, mid, decoded, by rw [told]; rfl⟩, ?processed,
      ?committed⟩
    case processed =>
      let f : Follower :=
        { Follower.ofSettings settings scanner schedule with current := h, epoch := e }
      refine ⟨f, { f with epoch := e' }, report, work, [], rfl, rfl, rfl, ?_, ?_⟩
      · rw [List.append_nil, same]
      · rw [Follower.process_eq]
        exact path.bind _
    case committed =>
      intro boundary
      obtain ⟨mid', top, ends⟩ := committed boundary
      rw [split, List.append_assoc] at ends
      refine ⟨⟨.source (.logs (.ofBlock scanner.contract scanner.topic h)), reply⟩ :: mid', [],
        top, ?_⟩
      rw [List.append_nil]
      exact List.append_cancel_left ends

end Steps

/-! ## §4. Runs -/

theorem lastOfSource_concat {x : Exchange} (t : List Exchange)
    (asks : x.request.asksSource = true) : lastOfSource (t ++ [x]) = some x := by
  unfold lastOfSource
  rw [List.filter_append, List.filter_cons, if_pos asks]
  simp

/-- A run walks in order: each log query is `Asked` where it may be. -/
theorem conducts_run_ordered (settings : FollowerSettings) (scanner : Scanner)
    (schedule : Schedule) (n : Nat) :
    (Follower.run n (.ofSettings settings scanner schedule)).Conducts recording
      (OrderStep settings scanner schedule) (fun _ _ => True) [] := by
  refine Follower.conducts_run ((Follower.conducts_rounds
    (J := fun _ h t => Reached settings.start scanner schedule h t)
    (C := fun _ h t => Reached settings.start scanner schedule h t ∧
      Confirmed settings.confirmations h t)
    (R := True) ?asked ?polled ?paused ?worked n _ ⟨rfl, rfl, rfl⟩ (fun _ => trivial) []
    (.first rfl)).mono fun _ _ _ => trivial)
  case asked => exact fun e h => calm_reached _ rfl
  case polled =>
    intro e h t reply t' reached step
    obtain ⟨allowed, reached⟩ := calm_reached (.source .head) rfl t reply t' reached step
    refine ⟨allowed, reached, fun head told _ enough => ⟨reached, head, ?_, enough⟩⟩
    obtain rfl := eq_of_recording step
    rw [lastOfSource_concat t rfl, told]
  case paused => exact fun e h ms => calm_reached _ rfl
  case worked =>
    intro e h t given
    obtain ⟨reached, confirmed⟩ := given
    exact conducts_work_ordered reached confirmed

/-- Heights are taken in order and behind the head, as long as no height is the greatest word.
    At any moment of a run of a new follower, whatever is answered,
      * each log query is for one block, the first one for the block at `settings.start`, and the
        last answer of the source chain before it is a head that confirms the height
        (`lastOfSource`);
      * of two log queries in a row, the second is for the height of the first, or for the next
        one; then all the work at the height of the first was done between them (`Completed`). -/
theorem heights_in_order {settings : FollowerSettings} {scanner : Scanner}
    {schedule : Schedule} {n : Nat} {t : List Exchange} {d : Dialogue Follower.Run}
    (path : Path (Follower.run n (.ofSettings settings scanner schedule)) t d)
    (small : ∀ filter reply, ⟨.source (.logs filter), reply⟩ ∈ t →
      filter.last.toNat < 2 ^ 64 - 1) :
    (∀ pre filter reply post, t = pre ++ ⟨.source (.logs filter), reply⟩ :: post →
      filter.first = filter.last ∧
      ((∀ x ∈ pre, x.request.opensVisit = false) → filter.last = settings.start) ∧
      ∃ head : UInt64, lastOfSource pre = some ⟨.source .head, .ok head⟩ ∧
        min (filter.last.toNat + settings.confirmations.toNat) (2 ^ 64 - 1) ≤ head.toNat) ∧
    (∀ pre filter reply mid filter' reply' post,
      t = pre ++ ⟨.source (.logs filter), reply⟩ :: mid ++
        ⟨.source (.logs filter'), reply'⟩ :: post →
      (∀ x ∈ mid, x.request.opensVisit = false) →
      filter'.last = filter.last ∨
        (filter'.last.toNat = filter.last.toNat + 1 ∧
          Completed scanner schedule filter.last (⟨.source (.logs filter), reply⟩ :: mid))) := by
  -- what a log query owes its height and its head to is known where it is asked (`Asked`)
  have asked : ∀ pre filter reply post, t = pre ++ ⟨.source (.logs filter), reply⟩ :: post →
      Asked settings scanner schedule filter pre := by
    intro pre filter reply post whole
    subst whole
    have before : recording.Through [] pre pre := through_recording [] pre
    exact (conducts_run_ordered settings scanner schedule n).allowed path before rfl filter rfl
  constructor
  · intro pre filter reply post whole
    obtain ⟨single, reached, head, last, enough⟩ := asked pre filter reply post whole
    refine ⟨single, fun none => ?_, head, last, ?_⟩
    · -- before the first log query there is no visit
      have blank := visitOf_none none
      generalize filter.last = height at reached
      cases reached with
      | first => rfl
      | again visit =>
        rw [blank] at visit
        cases visit
      | next visit completed =>
        rw [blank] at visit
        cases visit
    · rw [UInt64.le_iff_toNat_le, Saturating.toNat_add] at enough
      exact enough
  · intro pre filter reply mid filter' reply' post whole quiet
    have reached := (asked _ filter' reply' post whole).reached
    -- nothing between the two opens a visit, so it is still the one of the first query
    have opened := visitOf_split (x := ⟨.source (.logs filter), reply⟩) pre rfl quiet
    have fits : filter.last.toNat < 2 ^ 64 - 1 := small filter reply (by simp [whole])
    generalize filter'.last = height at reached
    cases reached with
    | first none =>
      rw [opened] at none
      cases none
    | again visit =>
      rw [opened] at visit
      cases visit
      exact .inl rfl
    | next visit completed =>
      rw [opened] at visit
      cases visit
      exact .inr ⟨Words.toNat_succ fits, completed⟩

namespace Session

/-- The front of a round at height one, which is confirmed. -/
def nextScan : List Exchange :=
  [⟨.stopRequested, false⟩,
   ⟨.source .head, .ok (5 : UInt64)⟩,
   ⟨.source (.logs (.ofBlock shortScanner.contract shortScanner.topic 1)), .ok []⟩]

theorem path_next : ∃ d,
    Path (Follower.run 2 (.ofSettings shortSettings shortScanner shortSchedule))
      (shortRound ++ nextScan) d := by
  apply Exists.intro
  with_unfolding_all
    iterate 11 apply Path.step
    apply Path.here

end Session

open Session in
/-- Where height `1` is asked for, height `0` was taken in and committed. -/
theorem height_one_behind_height_zero :
    Completed shortScanner shortSchedule 0
      (⟨.source (.logs (.ofBlock shortScanner.contract shortScanner.topic 0)), .ok [shortLog]⟩ ::
        (shortFlush :: shortCommit ++
          [⟨.stopRequested, false⟩, ⟨.source .head, .ok (5 : UInt64)⟩])) := by
  obtain ⟨d, path⟩ := path_next
  have small : ∀ filter reply,
      ⟨.source (.logs filter), reply⟩ ∈ shortRound ++ nextScan → filter.last.toNat < 2 ^ 64 - 1 := by
    intro filter reply member
    have asked : filter.last = 0 ∨ filter.last = 1 := by
      simp only [shortRound, shortScan, shortFlush, shortCommit, nextScan, List.mem_append,
        List.mem_cons, List.not_mem_nil, Exchange.mk.injEq, Request.source.injEq, reduceCtorEq,
        SourceQuery.logs.injEq, false_and, or_false, false_or] at member
      rcases member with ⟨rfl, -⟩ | ⟨rfl, -⟩
      · exact .inl rfl
      · exact .inr rfl
    rcases asked with zero | one
    · rw [zero]
      decide
    · rw [one]
      decide
  have order := (heights_in_order path small).2 [⟨.stopRequested, false⟩,
      ⟨.source .head, .ok (5 : UInt64)⟩] (.ofBlock shortScanner.contract shortScanner.topic 0)
    (.ok [shortLog]) (shortFlush :: shortCommit ++ [⟨.stopRequested, false⟩,
      ⟨.source .head, .ok (5 : UInt64)⟩]) (.ofBlock shortScanner.contract shortScanner.topic 1)
    (.ok []) [] rfl (by decide)
  rcases order with same | ⟨-, completed⟩
  · exact absurd same (by decide)
  · exact completed

end StakeRelay
