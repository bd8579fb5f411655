/-
  StakeRelay.Proofs.Follower.Phases — the loop and its phases agree.

  A round asks for changes of phase at several places, and each of them may be refused. Here
  a round is written a second time, with notes: every change that is asked for, granted or
  not, and every height whose work came to a result. Without the notes it is the round.

  From a follower that polls, every change that is asked for is granted. So a round leaves
  the follower polling, one height further or not, or it leaves it stopped, and the run ends
  there. The heights that are noted as done are the heights from the first on, without a gap,
  and the follower stands at the next one. A stopped follower asks nothing any more.

  Main statements:
    * `Follower.fst_runNoted` — without its notes a noted run is the run;
    * `Follower.agrees_turn`, `Follower.agrees_turns` — what a round and a run may note;
    * `phases_follow_the_loop` — the loop tops, the changes and the end of every run.
-/

import StakeRelay.Proofs.Follower.Rounds
import StakeRelay.Proofs.Follower.Session
import StakeRelay.Proofs.Number.Words

namespace StakeRelay

open Dialogue

/-! ## §1. Notes -/

/-- What a round does between its questions. -/
inductive Note
  /-- A change of phase is asked for. -/
  | change (source target : Phase)
  /-- The work at a height came to a result. -/
  | done (height : UInt64)
  deriving Repr, DecidableEq

/-- The heights that are noted as done, in their order. -/
def Note.heights (notes : List Note) : List UInt64 :=
  notes.filterMap fun
    | .change _ _ => none
    | .done height => some height

/-- Every change that is noted is one that the phase permits. -/
def Note.AllPermitted (notes : List Note) : Prop :=
  ∀ source target, .change source target ∈ notes → source.permits target = true

namespace Follower

/-- `enter` with the change that it asks for. -/
def enterNoted (f : Follower) (phase : Phase) : Except Failure Follower × List Note :=
  (f.enter phase, [.change f.phase phase])

/-- `stop` with its notes. -/
def stopNoted (f : Follower) (outcome : Except Failure Unit) : Turn × List Note :=
  match f.enterNoted .stopped with
  | (.ok f, notes) => (⟨f, some outcome, none⟩, notes)
  | (.error failure, notes) => (⟨f, some (.error failure), none⟩, notes)

/-- `goOn` with its notes. -/
def goOnNoted (f : Follower) (phase : Phase) : Turn × List Note :=
  match f.enterNoted phase with
  | (.ok f, notes) => (⟨f, none, none⟩, notes)
  | (.error failure, notes) => (⟨f, some (.error failure), none⟩, notes)

/-- `retryAfter` with its notes. -/
def retryAfterNoted (f : Follower) (failure : Failure) : Dialogue (Turn × List Note) :=
  if failure.isTransient then
    let f := { f with retriesLeft := f.retriesLeft - min 1 f.retriesLeft }
    match f.enterNoted .retryWait with
    | (.error fault, notes) => return (⟨f, some (.error fault), none⟩, notes)
    | (.ok f, notes) => do
      if 0 < f.retriesLeft then Dialogue.wait f.settings.interval
      let (turn, more) := f.goOnNoted .polling
      return (turn, notes ++ more)
  else return f.stopNoted (.error failure)

/-- `advance` with its notes. -/
def advanceNoted (f : Follower) : Dialogue (Turn × List Note) :=
  match f.enterNoted .processing with
  | (.error failure, notes) => return (⟨f, some (.error failure), none⟩, notes)
  | (.ok f, notes) => do
    match ← f.process with
    | (.error failure, f) =>
      let (turn, more) ← f.retryAfterNoted failure
      return (turn, notes ++ more)
    | (.ok committed, f) =>
      match f.enterNoted .polling with
      | (.error failure, more) =>
        return (⟨f, some (.error failure), committed⟩, notes ++ .done f.current :: more)
      | (.ok f, more) =>
        return (⟨{ f with current := f.current + 1, retriesLeft := f.settings.retryLimit },
          none, committed⟩, notes ++ .done f.current :: more)

/-- `turn` with its notes. -/
def turnNoted (f : Follower) : Dialogue (Turn × List Note) := do
  if ← Dialogue.stopRequested then return f.stopNoted (.ok ())
  else if f.retriesLeft = 0 then
    return f.stopNoted (.error (.retriesExceeded f.current f.settings.retryLimit))
  else
    match ← (Attempt.source .head).run with
    | .error failure => f.retryAfterNoted failure
    | .ok head =>
      if head < f.confirmedAt then do
        Dialogue.wait f.settings.interval
        return (⟨f, none, none⟩, [])
      else f.advanceNoted

/-- `turns` with its notes. -/
def turnsNoted : Nat → Follower → Dialogue (Run × List Note)
  | 0, f => return (⟨f, none, []⟩, [])
  | n + 1, f => do
    let (t, notes) ← f.turnNoted
    match t.outcome with
    | some outcome => return (⟨t.follower, some outcome, t.committed.toList⟩, notes)
    | none =>
      let (r, more) ← turnsNoted n t.follower
      return ({ r with committed := t.committed.toList ++ r.committed }, notes ++ more)

/-- `run` with its notes. -/
def runNoted (n : Nat) (f : Follower) : Dialogue (Run × List Note) :=
  if f.phase = .stopped then
    return (⟨f, some (.error (.invalidState .alreadyStopped)), []⟩, [])
  else f.turnsNoted n

/-! ## §2. Without the notes -/

theorem fst_stopNoted (f : Follower) (outcome : Except Failure Unit) :
    (f.stopNoted outcome).1 = f.stop outcome := by
  unfold stopNoted stop enterNoted
  cases f.enter .stopped <;> rfl

theorem fst_goOnNoted (f : Follower) (phase : Phase) : (f.goOnNoted phase).1 = f.goOn phase := by
  unfold goOnNoted goOn enterNoted
  cases f.enter phase <;> rfl

/-- Without its notes `retryAfterNoted` is `retryAfter`. -/
theorem fst_retryAfterNoted (f : Follower) (failure : Failure) :
    Prod.fst <$> f.retryAfterNoted failure = f.retryAfter failure := by
  unfold retryAfterNoted retryAfter enterNoted
  dsimp only
  split
  · cases enter { f with retriesLeft := f.retriesLeft - min 1 f.retriesLeft } .retryWait with
    | error fault => rfl
    | ok g =>
      dsimp only
      split <;> simp only [map_bind, map_pure, fst_goOnNoted]
  · rw [map_pure, fst_stopNoted]

theorem fst_advanceNoted (f : Follower) : Prod.fst <$> f.advanceNoted = f.advance := by
  unfold advanceNoted advance enterNoted
  cases f.enter .processing with
  | error failure => rfl
  | ok g =>
    simp only [map_bind]
    congr
    funext done
    obtain ⟨result, g⟩ := done
    cases result with
    | error failure =>
      dsimp only
      rw [← fst_retryAfterNoted, map_bind]
      simp only [map_pure, bind_pure_comp]
    | ok committed =>
      dsimp only
      cases g.enter .polling <;> rfl

/-- Without its notes `turnNoted` is `turn`. -/
theorem fst_turnNoted (f : Follower) : Prod.fst <$> f.turnNoted = f.turn := by
  unfold turnNoted turn
  rw [map_bind]
  congr
  funext stop
  cases stop with
  | true => rw [if_pos rfl, if_pos rfl, map_pure, fst_stopNoted]
  | false =>
    rw [if_neg Bool.false_ne_true, if_neg Bool.false_ne_true]
    split
    · rw [map_pure, fst_stopNoted]
    · rw [map_bind]
      congr
      funext heard
      cases heard with
      | error failure => exact fst_retryAfterNoted f failure
      | ok head =>
        dsimp only
        split
        · simp only [map_bind, map_pure]
        · exact fst_advanceNoted f

/-- And so for any number of rounds (`turns`). -/
theorem fst_turnsNoted (n : Nat) (f : Follower) :
    Prod.fst <$> f.turnsNoted n = f.turns n := by
  induction n generalizing f with
  | zero => rfl
  | succ n ih =>
    unfold turnsNoted turns
    rw [map_bind, ← fst_turnNoted, bind_map_left]
    congr
    funext noted
    obtain ⟨turn, notes⟩ := noted
    dsimp only
    cases turn.outcome with
    | some outcome => rfl
    | none => simp only [map_bind, ← ih, bind_map_left, map_pure]

/-- Without its notes `runNoted n` is `run n`. -/
theorem fst_runNoted (n : Nat) (f : Follower) : Prod.fst <$> f.runNoted n = f.run n := by
  unfold runNoted run
  split
  · rfl
  · exact fst_turnsNoted n f

/-- So a path of `run n` has notes: it is one of `runNoted n`. -/
theorem path_runNoted {f : Follower} {n : Nat} {t : List Exchange} {r : Run}
    (path : Path (f.run n) t (.done r)) : ∃ notes, Path (f.runNoted n) t (.done (r, notes)) := by
  rw [← fst_runNoted] at path
  obtain ⟨⟨r', notes⟩, u, v, rfl, noted, last⟩ := Path.ends_bind path
  obtain ⟨rfl, rfl⟩ := Path.ends_done last
  rw [List.append_nil]
  exact ⟨notes, noted⟩

end Follower

/-! ## §3. Heights in a row -/

namespace Words

/-- The given number of heights from the first on. -/
def stretch (first : UInt64) (k : Nat) : List UInt64 :=
  (List.range k).map fun j => first + .ofNat j

/-- `m + n` heights from `first` on are `m` of them and then `n`. -/
theorem stretch_add (first : UInt64) (m n : Nat) :
    stretch first (m + n) = stretch first m ++ stretch (first + .ofNat m) n := by
  unfold stretch
  rw [List.range_add, List.map_append, List.map_map]
  congr 2
  funext j
  exact (add_ofNat_add first m j).symm

/-- As long as the heights do not run out, `stretch first k` holds the heights from `first` to
    below `first + k`. -/
theorem mem_stretch {first h : UInt64} {k : Nat} (fits : first.toNat + k < 2 ^ 64) :
    h ∈ stretch first k ↔ first ≤ h ∧ h < first + .ofNat k := by
  simp only [stretch, List.mem_map, List.mem_range, UInt64.le_iff_toNat_le,
    UInt64.lt_iff_toNat_lt, toNat_add_ofNat fits]
  constructor
  · rintro ⟨j, below, rfl⟩
    rw [toNat_add_ofNat (by omega)]
    omega
  · rintro ⟨least, below⟩
    exact ⟨h.toNat - first.toNat, by omega, add_ofNat (by omega)⟩

end Words

namespace Follower

/-! ## §4. What is noted -/

/-- The notes between two followers, at the second of which the run ends or goes on. No
    change was refused; the second follower polls if the run goes on and is stopped if it
    ends; and it stands behind the heights that are noted as done. -/
structure Agrees (f g : Follower) (outcome : Option (Except Failure Unit)) (notes : List Note) :
    Prop where
  permitted : Note.AllPermitted notes
  polls : outcome = none → g.phase = .polling
  stops : outcome ≠ none → g.phase = .stopped
  heights : ∃ k, Note.heights notes = Words.stretch f.current k ∧
    g.current = f.current + .ofNat k

section Agreement

variable {f g g' : Follower} {o o' : Option (Except Failure Unit)} {notes more : List Note}
  {t : List Exchange} {turn : Turn} {r : Run}

/-- Notes in a row are `AllPermitted` if each part is. -/
theorem allPermitted_append (first : Note.AllPermitted notes) (second : Note.AllPermitted more) :
    Note.AllPermitted (notes ++ more) := fun source target member =>
  (List.mem_append.mp member).elim (first source target) (second source target)

theorem allPermitted_change {source target : Phase} (permits : source.permits target = true) :
    Note.AllPermitted [.change source target] := by
  intro source target member
  obtain ⟨rfl, rfl⟩ : _ ∧ _ := by simpa using member
  exact permits

/-- Where no height is done the follower stands where it stood (`Note.heights notes = []`). -/
theorem Agrees.still (permitted : Note.AllPermitted notes) (undone : Note.heights notes = [])
    (same : g.current = f.current) (polls : o = none → g.phase = .polling)
    (stops : o ≠ none → g.phase = .stopped) : Agrees f g o notes :=
  ⟨permitted, polls, stops, 0, undone, same.trans (Words.add_ofNat_zero _).symm⟩

/-- What `Agrees` with its notes step by step agrees with them in a row. -/
theorem Agrees.trans (first : Agrees f g o notes) (second : Agrees g g' o' more) :
    Agrees f g' o' (notes ++ more) := by
  obtain ⟨m, done, place⟩ := first.heights
  obtain ⟨n, done', place'⟩ := second.heights
  refine ⟨allPermitted_append first.permitted second.permitted, second.polls, second.stops,
    m + n, ?_, ?_⟩
  · rw [Words.stretch_add, ← place, ← done, ← done']
    exact List.filterMap_append
  · rw [place', place, Words.add_ofNat_add]

/-- A follower at work may wait for a retry, and any follower at work may stop. -/
def Busy (f : Follower) : Prop := f.phase = .polling ∨ f.phase = .processing

/-- A stop agrees with its notes (`stopNoted`). -/
theorem agrees_stop (outcome : Except Failure Unit) (busy : f.Busy) :
    Agrees f (f.stopNoted outcome).1.follower (f.stopNoted outcome).1.outcome
      (f.stopNoted outcome).2 := by
  have permits : f.phase.permits .stopped = true := by
    rcases busy with same | same <;> rw [same] <;> rfl
  unfold stopNoted enterNoted
  rw [enter_of_permits permits]
  exact .still (allPermitted_change permits) rfl rfl nofun fun _ => rfl

/-- Behind a failure (`retryAfterNoted`) the follower polls again or it has stopped, as its
    notes say. -/
theorem agrees_retryAfter {failure : Failure} (busy : f.Busy)
    (path : Path (f.retryAfterNoted failure) t (.done (turn, notes))) :
    Agrees f turn.follower turn.outcome notes := by
  unfold retryAfterNoted at path
  split at path
  · have permits : f.phase.permits .retryWait = true := by
      rcases busy with same | same <;> rw [same] <;> rfl
    have waits : enter { f with retriesLeft := f.retriesLeft - min 1 f.retriesLeft } .retryWait =
        .ok { f with phase := .retryWait, retriesLeft := f.retriesLeft - min 1 f.retriesLeft } :=
      enter_of_permits permits
    simp only [enterNoted, waits] at path
    have goes : goOnNoted
        { f with phase := .retryWait, retriesLeft := f.retriesLeft - min 1 f.retriesLeft } .polling =
          (⟨{ f with phase := .polling, retriesLeft := f.retriesLeft - min 1 f.retriesLeft },
            none, none⟩, [.change .retryWait .polling]) := by
      unfold goOnNoted enterNoted
      rw [enter_of_permits rfl]
    rw [goes] at path
    -- the pause changes nothing
    have ends : (turn, notes) =
        (⟨{ f with phase := .polling, retriesLeft := f.retriesLeft - min 1 f.retriesLeft },
          none, none⟩, [.change f.phase .retryWait, .change .retryWait .polling]) := by
      split at path
      · obtain ⟨_, _, _, -, -, last⟩ := Path.ends_bind path
        exact (Path.ends_done last).2
      · exact (Path.ends_done path).2
    injection ends with turned noted
    subst turned noted
    have both : Note.AllPermitted ([.change f.phase .retryWait] ++ [.change .retryWait .polling]) :=
      allPermitted_append (allPermitted_change permits) (allPermitted_change rfl)
    exact .still both rfl rfl (fun _ => rfl) (absurd rfl)
  · obtain ⟨-, ends⟩ := Path.ends_done path
    have stops := agrees_stop (.error failure) busy
    rw [← ends] at stops
    exact stops

/-- The work at a height changes the open epoch `e` of a follower only. -/
theorem course_process {done : Except Failure (Option BoundaryReport) × Follower}
    (path : Path f.process t (.done done)) : ∃ e, done.2 = { f with epoch := e } := by
  rw [process_eq] at path
  obtain ⟨result, _, _, -, -, last⟩ := Path.ends_bind path
  obtain ⟨-, rfl⟩ := Path.ends_done last
  exact ⟨result.2, rfl⟩

/-- So does what follows the look of a round (`advanceNoted`). -/
theorem agrees_advance (polling : f.phase = .polling)
    (path : Path f.advanceNoted t (.done (turn, notes))) :
    Agrees f turn.follower turn.outcome notes := by
  have permits : f.phase.permits .processing = true := by rw [polling]; rfl
  unfold advanceNoted enterNoted at path
  rw [enter_of_permits permits] at path
  obtain ⟨⟨result, g⟩, u, v, rfl, worked, rest⟩ := Path.ends_bind path
  obtain ⟨e, same⟩ := course_process worked
  dsimp only at same
  subst same
  have begins := allPermitted_change permits
  -- the notes of the work are one change, and then those of the failure or of the next phase
  cases result with
  | error failure =>
    obtain ⟨⟨_, later⟩, _, _, -, retried, last⟩ := Path.ends_bind rest
    obtain ⟨-, ends⟩ := Path.ends_done last
    injection ends with turned noted
    subst turned noted
    obtain ⟨permitted, polls, stops, heights⟩ := agrees_retryAfter (.inr rfl) retried
    exact ⟨allPermitted_append begins permitted, polls, stops, heights⟩
  | ok committed =>
    dsimp only at rest
    rw [enter_of_permits rfl] at rest
    obtain ⟨-, ends⟩ := Path.ends_done rest
    injection ends with turned noted
    subst turned noted
    have frees : Note.AllPermitted [.done f.current, .change .processing .polling] := by
      intro source target member
      obtain ⟨rfl, rfl⟩ : _ ∧ _ := by simpa using member
      rfl
    refine ⟨allPermitted_append begins frees, fun _ => rfl, absurd rfl, 1, ?_, rfl⟩
    show [f.current] = [f.current + .ofNat 0]
    rw [Words.add_ofNat_zero]

/-- A round of a follower that polls `Agrees` with its notes, and no change that it asks for is
    refused. -/
theorem agrees_turn (polling : f.phase = .polling)
    (path : Path f.turnNoted t (.done (turn, notes))) :
    Agrees f turn.follower turn.outcome notes := by
  unfold turnNoted at path
  obtain ⟨stop, _, _, rfl, -, path⟩ := Path.ends_bind path
  -- a round ends the run by a stop in two places, before it has asked the source for anything
  have stopping (outcome : Except Failure Unit)
      (ends : (turn, notes) = f.stopNoted outcome) : Agrees f turn.follower turn.outcome notes := by
    have stops := agrees_stop outcome (.inl polling)
    rw [← ends] at stops
    exact stops
  cases stop with
  | true => exact stopping _ (Path.ends_done path).2
  | false =>
  rw [if_neg Bool.false_ne_true] at path
  split at path
  · exact stopping _ (Path.ends_done path).2
  obtain ⟨heard, _, _, rfl, -, path⟩ := Path.ends_bind path
  cases heard with
  | error failure => exact agrees_retryAfter (.inl polling) path
  | ok head =>
  dsimp only at path
  split at path
  · obtain ⟨_, _, _, -, -, last⟩ := Path.ends_bind path
    obtain ⟨-, ends⟩ := Path.ends_done last
    injection ends with turned noted
    subst turned noted
    exact .still nofun rfl rfl (fun _ => polling) (absurd rfl)
  · exact agrees_advance polling path

/-- So does any number of rounds (`turnsNoted`). -/
theorem agrees_turns {n : Nat} (polling : f.phase = .polling)
    (path : Path (f.turnsNoted n) t (.done (r, notes))) :
    Agrees f r.follower r.outcome notes := by
  -- induction on the rounds; the notes of a round that goes on stand before those of the others
  induction n generalizing f t r notes with
  | zero =>
    obtain ⟨-, ends⟩ := Path.ends_done path
    injection ends with ran noted
    subst ran noted
    exact .still nofun rfl rfl (fun _ => polling) (absurd rfl)
  | succ n ih =>
    unfold turnsNoted at path
    obtain ⟨⟨turn, first⟩, _, _, -, round, rest⟩ := Path.ends_bind path
    have begins := agrees_turn polling round
    dsimp only at rest
    cases ended : turn.outcome with
    | some outcome =>
      rw [ended] at rest begins
      obtain ⟨-, ends⟩ := Path.ends_done rest
      injection ends with ran noted
      subst ran noted
      exact begins
    | none =>
      rw [ended] at rest
      obtain ⟨⟨later, more⟩, _, _, -, goes, last⟩ := Path.ends_bind rest
      obtain ⟨-, ends⟩ := Path.ends_done last
      injection ends with ran noted
      subst ran noted
      exact begins.trans (ih (r := later) (begins.polls ended) goes)

end Agreement

end Follower

/-! ## §5. Every run -/

/-- The loop and its phases agree, whatever is answered to a follower that was just set up. No
    change of phase that it asks for is refused (`Note.AllPermitted`). The heights whose work is
    done are the heights from the first on, without a gap (`Words.stretch`), and the follower is
    at the next one. At every loop top, which is where any number of rounds goes on, it is
    `.polling`. Where a run ends it is `.stopped`, and another run of it asks nothing, ends at
    once and leaves it as it is. -/
theorem phases_follow_the_loop (settings : FollowerSettings) (scanner : Scanner)
    (schedule : Schedule) (n : Nat) (t : List Exchange) (r : Follower.Run)
    (path : Path ((Follower.ofSettings settings scanner schedule).run n) t (.done r)) :
    (∃ notes k,
      Path ((Follower.ofSettings settings scanner schedule).runNoted n) t (.done (r, notes)) ∧
        Note.AllPermitted notes ∧
        Note.heights notes = Words.stretch settings.start k ∧
        r.follower.current = settings.start + .ofNat k ∧
        (settings.start.toNat + k < 2 ^ 64 → ∀ h, h ∈ Note.heights notes ↔
          settings.start ≤ h ∧ h < r.follower.current)) ∧
      (r.outcome = none → r.follower.phase = .polling) ∧
      (r.outcome ≠ none → r.follower.phase = .stopped ∧
        ∀ later, r.follower.run later =
          .done ⟨r.follower, some (.error (.invalidState .alreadyStopped)), []⟩) := by
  obtain ⟨notes, noted⟩ := Follower.path_runNoted path
  have agrees := Follower.agrees_turns (n := n) rfl noted
  obtain ⟨k, done, place⟩ := agrees.heights
  refine ⟨⟨notes, k, noted, agrees.permitted, done, place, fun fits h => ?_⟩, agrees.polls,
    fun ended => ⟨agrees.stops ended, Follower.run_of_stopped (agrees.stops ended)⟩⟩
  rw [done, place]
  exact Words.mem_stretch fits

/-- A follower that passes height `0` and is stopped at the next loop top. -/
theorem short_run_ends_stopped : ∃ r : Follower.Run,
    Path (Session.shortStart.run 2) (Session.shortRound ++ [⟨.stopRequested, true⟩]) (.done r) ∧
      r.outcome = some (.ok ()) ∧ r.follower.current = 1 ∧
      (∃ notes, Path (Session.shortStart.runNoted 2)
          (Session.shortRound ++ [⟨.stopRequested, true⟩]) (.done (r, notes)) ∧
        Note.AllPermitted notes) ∧
      r.follower.phase = .stopped ∧ ∀ later, r.follower.run later =
        .done ⟨r.follower, some (.error (.invalidState .alreadyStopped)), []⟩ := by
  obtain ⟨report, round⟩ := Session.turn_short
  have asked : Path (Follower.turns 1 Session.shortEnd) [⟨.stopRequested, true⟩]
      (.done ⟨Session.shortEnd.halted, some (.ok ()), []⟩) := by
    with_unfolding_all
      apply Path.step
      apply Path.here
  have path := Follower.path_turns round rfl asked
  obtain ⟨⟨notes, k, noted, permitted, -⟩, -, stopped⟩ :=
    phases_follow_the_loop Session.shortSettings Session.shortScanner Session.shortSchedule 2 _ _
      path
  exact ⟨_, path, rfl, rfl, ⟨notes, noted, permitted⟩, stopped nofun⟩

end StakeRelay
