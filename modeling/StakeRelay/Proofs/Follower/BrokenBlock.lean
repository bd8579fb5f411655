/-
  StakeRelay.Proofs.Follower.BrokenBlock — a block with a broken log ends the run.

  The deposits of a block are taken in together, after all its logs have been read. So a log
  that holds no deposit fails the whole block: none of its deposits reaches the open epoch,
  whether their logs come before the broken one or behind it. The failure is one of decoding,
  which is not tried again, and it names the height and the position of the log.

  A round asks for one block at most, as the last question before the work at a boundary. So
  nothing has been offered or written in the round by then, and nothing is asked behind it.

  Main statements:
    * `Scanner.run_scan` — a scan of the simulated source;
    * `Follower.TurnPath.scans` — where in a round a block is asked for;
    * `block_is_scanned_whole_or_not_at_all` — what a scan gives, and what becomes of a run.
-/

import StakeRelay.Proofs.Deposit.Reading
import StakeRelay.Proofs.Deposit.Scanning
import StakeRelay.Proofs.Follower.Refusal
import StakeRelay.Proofs.Follower.Stopping
import StakeRelay.Service.Partners

namespace StakeRelay

open Dialogue

/-! ## §1. Scans -/

/-- Asked for a block, the simulated source tells the logs that were pushed for it
    (`Scanner.due`). -/
theorem Sandbox.answer_logs (limit : Nat) (scanner : Scanner) (height : UInt64) {sandbox : Sandbox}
    (up : sandbox.source.logOutages = 0) :
    (Sandbox.answer limit (.source (.logs (.ofBlock scanner.contract scanner.topic height)))
      sandbox).1 = .ok (scanner.due height sandbox.source.logs) := by
  rw [← SimulatedSource.select_ofBlock]
  unfold Sandbox.answer SimulatedSource.answer
  simp only [up, Nat.lt_irrefl, if_false]
  rfl

theorem Scanner.run_scan (limit : Nat) (scanner : Scanner) (height : UInt64) {sandbox : Sandbox}
    (up : sandbox.source.logOutages = 0) :
    ((scanner.scan height).run.run (Sandbox.answer limit) sandbox).1 =
      decodeFrom height 0 (scanner.due height sandbox.source.logs) := by
  unfold scan
  rw [attempt_bind]
  show (Dialogue.run _ _ (Sandbox.answer limit _ sandbox).2).1 = _
  rw [Sandbox.answer_logs limit scanner height up]
  rfl

/-! ## §2. Blocks in a round -/

namespace Follower

section Turns

variable {f : Follower} {t : List Exchange} {turn : Turn}

/-- No block is asked for at a boundary (`SettlePath`). -/
theorem settles_unscanned {s : Schedule} {h : UInt64} {e : OpenEpoch}
    {done : Except Failure BoundaryReport × OpenEpoch} (path : s.SettlePath h e t done) :
    ∀ x ∈ t, x.request.opensVisit = false := by
  intro x member
  cases opens : x.request.opensVisit with
  | false => rfl
  | true =>
    -- it would be a block of any scanner
    obtain ⟨filter, asks⟩ := Request.exists_logs opens
    have of (scanner : Scanner) : SourceQuery.logs filter = logsOf scanner h := by
      have works : x.request.WorksAt scanner h := path.worksAt x member
      rwa [asks] at works
    have same := (of ⟨.zero, ⟨List.replicate 32 0, rfl⟩⟩).symm.trans
      (of ⟨.zero, ⟨List.replicate 32 1, rfl⟩⟩)
    cases same

/-- Where the work at a height asks for its block, and what a broken one comes to: nothing
    `more`. -/
theorem WorkPath.scans {scanner : Scanner} {s : Schedule} {h : UInt64} {e : OpenEpoch}
    {done : Except Failure (Option BoundaryReport) × OpenEpoch}
    (path : WorkPath scanner s h e t done) :
    ∃ reply more, t = ⟨.source (logsOf scanner h), reply⟩ :: more ∧
      (∀ x ∈ more, x.request.opensVisit = false) ∧
      ∀ logs failure, reply = .ok logs → Scanner.decodeFrom h 0 logs = .error failure →
        more = [] ∧ done = (.error failure, e) := by
  cases path with
  | unscanned failure => exact ⟨_, [], rfl, List.forall_mem_nil _, nofun⟩
  | broken broken =>
    refine ⟨_, [], rfl, List.forall_mem_nil _, fun logs failure same fails => ?_⟩
    cases same
    cases broken.symm.trans fails
    exact ⟨rfl, rfl⟩
  | inside whole inside =>
    refine ⟨_, [], rfl, List.forall_mem_nil _, fun logs failure same fails => ?_⟩
    cases same
    cases whole.symm.trans fails
  | boundary whole ends settle =>
    refine ⟨_, _, rfl, settles_unscanned settle, fun logs failure same fails => ?_⟩
    cases same
    cases whole.symm.trans fails

theorem hears_unscanned (head : UInt64) : ∀ x ∈ hears head, x.request.opensVisit = false :=
  List.forall_mem_cons.mpr ⟨rfl, List.forall_mem_singleton.mpr rfl⟩

/-- A round asks for no block, or for the one at its height behind the head (`hears`). If that
    is broken the round ends the run, and leaves the follower as it was. -/
theorem TurnPath.scans (path : TurnPath f t turn) :
    (∀ x ∈ t, x.request.opensVisit = false) ∨
      ∃ head reply more, t = hears head ++ ⟨.source (logsOf f.scanner f.current), reply⟩ :: more ∧
        (∀ x ∈ more, x.request.opensVisit = false) ∧
        ∀ logs failure, reply = .ok logs → Scanner.decodeFrom f.current 0 logs = .error failure →
          more = [] ∧ turn = ⟨f.halted, some (.error failure), none⟩ := by
  have pauses : ∀ x ∈ f.pause, x.request.opensVisit = false := f.forall_pause fun _ => rfl
  cases path with
  | asked => exact .inl (List.forall_mem_singleton.mpr rfl)
  | exhausted => exact .inl (List.forall_mem_singleton.mpr rfl)
  | early =>
    exact .inl (List.forall_mem_append.mpr
      ⟨hears_unscanned _, List.forall_mem_singleton.mpr rfl⟩)
  | passing left fails passing =>
    cases fails with
    | unheard =>
      exact .inl (List.forall_mem_cons.mpr ⟨rfl, List.forall_mem_cons.mpr ⟨rfl, pauses⟩⟩)
    | @unworked head _ _ _ confirmed work =>
      obtain ⟨reply, more, rfl, quiet, broken⟩ := work.scans
      refine .inr ⟨head, reply, more ++ f.pause, List.append_assoc (hears head) (_ :: more) f.pause,
        List.forall_mem_append.mpr ⟨quiet, pauses⟩, fun logs failure same fails => ?_⟩
      -- a broken block is no failure that may pass
      obtain ⟨-, done⟩ := broken logs failure same fails
      obtain ⟨fault, rfl⟩ := Scanner.decodeFrom_error fails
      cases done
      cases passing
  | fatal left fails fatal =>
    cases fails with
    | unheard => exact .inl (List.forall_mem_cons.mpr ⟨rfl, List.forall_mem_singleton.mpr rfl⟩)
    | unworked confirmed work =>
      obtain ⟨reply, more, rfl, quiet, broken⟩ := work.scans
      refine .inr ⟨_, reply, more, rfl, quiet, fun logs failure same fails => ?_⟩
      obtain ⟨none, done⟩ := broken logs failure same fails
      cases done
      exact ⟨none, rfl⟩
  | passed left confirmed work =>
    obtain ⟨reply, more, rfl, quiet, broken⟩ := work.scans
    refine .inr ⟨_, reply, more, rfl, quiet, fun logs failure same fails => ?_⟩
    obtain ⟨-, done⟩ := broken logs failure same fails
    cases done

/-- The same as `TurnPath.scans`, seen from the block. -/
theorem TurnPath.scanned {front rest : List Exchange} {filter : LogFilter}
    {reply : Except Failure (List RawLog)}
    (path : TurnPath f (front ++ ⟨.source (.logs filter), reply⟩ :: rest) turn) :
    ∃ head, front = hears head ∧ filter = .ofBlock f.scanner.contract f.scanner.topic f.current ∧
      ∀ logs failure, reply = .ok logs → Scanner.decodeFrom f.current 0 logs = .error failure →
        rest = [] ∧ turn = ⟨f.halted, some (.error failure), none⟩ := by
  rcases path.scans with quiet | ⟨head, reply', more, whole, quiet, broken⟩
  · cases quiet _ (List.mem_append_right front List.mem_cons_self)
  · rcases cons_split whole with ⟨a, rfl, split⟩ | ⟨a, ahead, -⟩
    · cases a with
      | nil =>
        injection split with same later
        injection same with asked replied
        cases asked
        cases replied
        rw [later] at broken
        exact ⟨head, List.append_nil _, rfl, broken⟩
      | cons y a =>
        -- no other block is asked for behind the one at the height
        rw [List.cons_append] at split
        have behind := (List.cons.inj split).2
        cases quiet ⟨.source (.logs filter), reply⟩ (by rw [behind]; simp)
    · cases hears_unscanned head ⟨.source (.logs filter), reply⟩ (by rw [ahead]; simp)

end Turns

end Follower

/-! ## §3. Runs -/

/-- A block with a broken log is the last thing that is asked for. The follower `g`, which had
    come to the height, stops and is otherwise as it was. -/
theorem Follower.Rounds.ends_at_broken {f₀ f : Follower} {pre post : List Exchange}
    {filter : LogFilter} {logs : List RawLog} {position : Nat} {fault : DecodeFault}
    {o : Option (Except Failure Unit)}
    (rounds : Rounds f₀ (pre ++ ⟨.source (.logs filter), .ok logs⟩ :: post) f o)
    (first : FirstBroken logs position fault) :
    ∃ top head g, Rounds f₀ top g none ∧ pre = top ++ hears head ∧ post = [] ∧
      filter = .ofBlock f₀.scanner.contract f₀.scanner.topic g.current ∧ f = g.halted ∧
      o = some (.error (.decode (.inLog g.current position fault))) := by
  obtain ⟨top, g, front, rest, turn, rfl, before, way, last⟩ := rounds.locate
  obtain ⟨head, rfl, asked, broken⟩ := way.scanned
  obtain ⟨rfl, rfl⟩ :=
    broken logs _ rfl (Scanner.decode_error_iff.mpr ⟨position, fault, first, rfl⟩)
  obtain ⟨nothing, follower, outcome⟩ := last nofun
  rw [before.course.2.1] at asked
  exact ⟨top, head, g, before, rfl, nothing, asked, follower, outcome⟩

/-- Nobody takes anything while the head and a block are asked for: the `effects` are those of
    `top`. -/
theorem effects_hears {filter : LogFilter} {reply : Except Failure (List RawLog)}
    (top : List Exchange) (head : UInt64) :
    effects (top ++ Follower.hears head ++ [⟨.source (.logs filter), reply⟩]) = effects top := by
  have apart : top ++ Follower.hears head =
      (top ++ [⟨.stopRequested, false⟩]) ++ [⟨.source .head, .ok head⟩] :=
    (List.append_assoc top [_] [_]).symm
  unfold effects
  rw [apart, Chronicle.of_concat, Chronicle.of_concat, Chronicle.of_concat,
    Chronicle.effects_after, Chronicle.effects_after, Chronicle.effects_after]
  simp [Chronicle.effectOf]

/-- A block is scanned whole or not at all.
      * A scan of the simulated source gives the deposits of exactly the logs that were pushed
        for the block and the topic, in the order in which they were pushed, if each of them
        holds one. Otherwise it fails, with the height and the position of the first that
        holds none.
      * In a run such a failure is the end, whatever the partners do. After `m` whole rounds
        the follower stood at the height as `g`, the head and the block were asked for, and
        nothing else was. The follower has stopped there, and is otherwise what it was: its
        records and its mark are those of `g`. Nobody took anything from it in that round, and
        the checkpoint is as it was, in memory as in files. -/
theorem block_is_scanned_whole_or_not_at_all :
    (∀ (scanner : Scanner) (height : UInt64) (limit : Nat) (s : SimulatedSource)
      (pushed : List RawLog) (sandbox : Sandbox), s.logs = [] → s.logOutages = 0 →
      sandbox.source = pushed.foldl SimulatedSource.push s →
        (∀ events, ((scanner.scan height).run.run (Sandbox.answer limit) sandbox).1 = .ok events ↔
          (scanner.due height pushed).map DepositEvent.ofLog = events.map .ok) ∧
        ∀ failure, ((scanner.scan height).run.run (Sandbox.answer limit) sandbox).1 =
            .error failure ↔
          ∃ position fault, FirstBroken (scanner.due height pushed) position fault ∧
            failure = .decode (.inLog height position fault)) ∧
    ∀ (f : Follower) (n : Nat) (t : List Exchange) (d : Dialogue Follower.Run),
      f.phase = .polling ∨ f.phase = .stopped → Path (f.run n) t d →
      ∀ pre filter logs post position fault,
        t = pre ++ ⟨.source (.logs filter), .ok logs⟩ :: post → FirstBroken logs position fault →
        post = [] ∧ ∃ r, d = .done r ∧
          filter = .ofBlock f.scanner.contract f.scanner.topic r.follower.current ∧
          r.outcome = some (.error (.decode (.inLog r.follower.current position fault))) ∧
          ∃ m reports g top head, pre = top ++ Follower.hears head ∧
            Path (f.turns m) top (.done ⟨g, none, reports⟩) ∧ r.follower = g.halted ∧
            effects t = effects top ∧
            (∀ c c', Keeping.volatile.goes.Through c (Follower.hears head ++
              [⟨.source (.logs filter), .ok logs⟩]) c' → c' = c) ∧
            ∀ checkpoint fs fs', (Storing.durable checkpoint).goes.Through fs (Follower.hears head ++
              [⟨.source (.logs filter), .ok logs⟩]) fs' → fs' = fs := by
  constructor
  · intro scanner height limit s pushed sandbox none up holds
    have source : sandbox.source.logOutages = 0 ∧ sandbox.source.logs = pushed := by
      rw [holds, SimulatedSource.foldl_push, none]
      exact ⟨up, rfl⟩
    rw [Scanner.run_scan limit scanner height source.1, source.2]
    exact ⟨fun events => Scanner.decodeFrom_ok_iff, fun failure => Scanner.decode_error_iff⟩
  · intro f n t d rests path pre filter logs post position fault split first
    rcases rests with polling | stopped
    case inr =>
      rw [Follower.run_of_stopped stopped] at path
      cases path with
      | here => simp at split
    -- a run is known by its rounds, and the broken block stands in the last of them
    obtain ⟨u, r, rounds, rest⟩ := Follower.exists_rounds polling path
    rw [split, List.append_assoc] at rounds
    obtain ⟨top, head, g, before, rfl, nothing, asked, follower, outcome⟩ :=
      rounds.ends_at_broken first
    obtain ⟨rfl, rfl⟩ := List.append_eq_nil_iff.mp nothing
    obtain ⟨m, reports, loop⟩ := before.path rfl
    have reads : ∀ x ∈ Follower.hears head ++ [⟨.source (.logs filter), .ok logs⟩],
        x.request.writes = false :=
      List.forall_mem_append.mpr ⟨fun x member => (Follower.plain_hears head x member).reads,
        List.forall_mem_singleton.mpr rfl⟩
    have height : r.follower.current = g.current := by rw [follower]; rfl
    refine ⟨rfl, r, ?_, ?_, ?_, m, reports, g, top, head, rfl, loop, follower, ?_, ?_, ?_⟩
    · cases rest with
      | here => rfl
    · rw [asked, height]
    · rw [outcome, height]
    · rw [split]
      exact effects_hears top head
    · exact fun c c' through => Storing.through_still Keeping.volatile_still through reads
    · exact fun checkpoint fs fs' through =>
        Storing.through_still (Storing.durable_still checkpoint) through reads

namespace Session

/-- A log without a staker. -/
def brokenLog : RawLog := ⟨0, [shortScanner.topic], []⟩

/-- The block at height zero with a broken log behind the deposit. -/
def brokenScan : List Exchange :=
  [⟨.stopRequested, false⟩,
   ⟨.source .head, .ok (5 : UInt64)⟩,
   ⟨.source (.logs (.ofBlock shortScanner.contract shortScanner.topic 0)),
    .ok [shortLog, brokenLog]⟩]

theorem path_broken : ∃ d, Path (Follower.run 2 shortStart) brokenScan d := by
  apply Exists.intro
  with_unfolding_all
    iterate 3 apply Path.step
    apply Path.here

theorem firstBroken_behind_deposit : FirstBroken [shortLog, brokenLog] 1 .noStakerTopic where
  broken := rfl
  whole i below := by
    obtain rfl : i = 0 := by omega
    exact ⟨_, congrArg some (DepositEvent.ofLog_toLog _ _ _ _ _)⟩

end Session

open Session in
/-- The second log at height zero is broken (`.inLog 0 1`), and no log of another height or
    topic counts. -/
theorem broken_log_is_named :
    ((shortScanner.scan 0).run.run (Sandbox.answer 1)
      ⟨[⟨1, [shortScanner.topic], []⟩, shortLog, ⟨0, [], []⟩, brokenLog].foldl
        SimulatedSource.push (.withHead 5), .empty, .empty⟩).1 =
      .error (.decode (.inLog 0 1 .noStakerTopic)) ∧
    ∃ r, Path (Follower.run 2 shortStart) brokenScan (.done r) ∧
      r.outcome = some (.error (.decode (.inLog 0 1 .noStakerTopic))) ∧
      r.follower.current = 0 := by
  constructor
  · exact ((block_is_scanned_whole_or_not_at_all.1 _ _ _ _ _ ⟨_, _, _⟩ rfl rfl rfl).2 _).mpr
      ⟨1, .noStakerTopic, firstBroken_behind_deposit, rfl⟩
  · obtain ⟨d, path⟩ := path_broken
    obtain ⟨-, r, rfl, height, outcome, -⟩ :=
      block_is_scanned_whole_or_not_at_all.2 shortStart 2 brokenScan d (.inl rfl) path
        [_, _] _ [shortLog, brokenLog] [] 1 .noStakerTopic rfl firstBroken_behind_deposit
    have zero : r.follower.current = 0 := (congrArg LogFilter.first height).symm
    rw [zero] at outcome
    exact ⟨r, path, outcome, zero⟩

end StakeRelay
