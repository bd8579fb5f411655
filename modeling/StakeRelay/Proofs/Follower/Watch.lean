/-
  StakeRelay.Proofs.Follower.Watch — time and the stop signal around a run.

  A `Watch` is what surrounds a run as far as stopping goes: the clock, the stop signal, and
  the moments ahead at which its sender acts. A look at the signal is answered by its flag
  and takes no time. During a call of a chain or of the checkpoint any time may pass, and any
  number of moments may come to pass. A wait lasts as the signal has it.

  A flag stands if it is raised and nothing ahead lowers it. Behind a look that found it down,
  a raised flag was not seen yet, as long as no wait took place. So the first wait that meets
  a standing flag takes no time.

  Main statements:
    * `Watch.Stands.step` — a standing flag stands whatever is asked;
    * `Watch.alert_step` — a call leaves a raised flag unseen;
    * `Watch.raisedBy_of_waited` — a wait in which the flag comes to stand ends with the
      moment that raises it;
    * `Watch.MoreFalses.now_waited` — flags that are sent and not raised do not change when a
      wait ends;
    * `Watch.steps_stage`, `Watch.through_stage` — a rehearsal whose cues leave the signal
      alone goes through the steps of its watch.
-/

import StakeRelay.Rehearsal.Performance
import StakeRelay.Proofs.Follower.Rounds
import StakeRelay.Proofs.Follower.Waiting

namespace StakeRelay

open Dialogue

/-- What surrounds a run as far as stopping goes. -/
structure Watch where
  /-- The time. -/
  now : Nat
  signal : StopSignal
  /-- The moments ahead at which the sender acts, each with what it does. -/
  ahead : List (Nat × List SignalEvent)
  ordered : ahead.Pairwise fun m n => m.1 ≤ n.1

namespace Watch

variable {g g' : Watch} {x : Exchange} {t : List Exchange} {ms : UInt64}

/-! ## §1. Steps -/

/-- The signal behind the first moments ahead. -/
def behind (g : Watch) (k : Nat) : StopSignal := g.signal.through (g.ahead.take k)

/-- The watch at another time, behind the first moments ahead. -/
def later (g : Watch) (now k : Nat) : Watch :=
  ⟨now, g.behind k, g.ahead.drop k, g.ordered.drop⟩

/-- How a wait goes. -/
def wait (g : Watch) (ms : UInt64) : Wait :=
  g.signal.wait (g.now + min ms.toNat Wait.longest) g.now g.ahead

/-- The watch behind a wait. -/
def waited (g : Watch) (ms : UInt64) : Watch :=
  ⟨(g.wait ms).ended, (g.wait ms).signal, g.ahead.drop (g.wait ms).passed, g.ordered.drop⟩

/-- Time passes during a call. -/
def Passes (g g' : Watch) : Prop := ∃ now k, g.now ≤ now ∧ g' = g.later now k

/-- The steps of a watch. -/
def steps : Surroundings Watch := fun g x g' =>
  match x with
  | ⟨.stopRequested, stop⟩ => stop = g.signal.raised ∧ g' = g
  | ⟨.wait ms, _⟩ => g' = g.waited ms
  | ⟨.source _, _⟩ => g.Passes g'
  | ⟨.submit _, _⟩ => g.Passes g'
  | ⟨.checkpoint _, _⟩ => g.Passes g'

/-- What a watch can go through: looks (`.stopRequested`), waits (`.wait ms`) and calls. -/
theorem steps_cases (step : steps g x g') :
    (x = ⟨.stopRequested, g.signal.raised⟩ ∧ g' = g) ∨
      (∃ ms, x = ⟨.wait ms, ()⟩ ∧ g' = g.waited ms) ∨
      (x.request ≠ .stopRequested ∧ (∀ ms, x.request ≠ .wait ms) ∧ g.Passes g') := by
  obtain ⟨request, reply⟩ := x
  cases request with
  | stopRequested =>
    obtain ⟨rfl, same⟩ := step
    exact .inl ⟨rfl, same⟩
  | wait ms => exact .inr (.inl ⟨ms, rfl, step⟩)
  | source q => exact .inr (.inr ⟨nofun, nofun, step⟩)
  | submit update => exact .inr (.inr ⟨nofun, nofun, step⟩)
  | checkpoint q => exact .inr (.inr ⟨nofun, nofun, step⟩)

/-- Whatever is asked, a watch can go on. -/
theorem exists_step (g : Watch) (r : Request) : ∃ reply g', steps g ⟨r, reply⟩ g' := by
  have passes : g.Passes (g.later g.now 0) := ⟨g.now, 0, Nat.le_refl _, rfl⟩
  cases r with
  | stopRequested => exact ⟨g.signal.raised, g, rfl, rfl⟩
  | wait ms => exact ⟨(), g.waited ms, rfl⟩
  | source q =>
    obtain ⟨reply⟩ := nonempty_reply (.source q)
    exact ⟨reply, _, passes⟩
  | submit update =>
    obtain ⟨reply⟩ := nonempty_reply (.submit update)
    exact ⟨reply, _, passes⟩
  | checkpoint q =>
    obtain ⟨reply⟩ := nonempty_reply (.checkpoint q)
    exact ⟨reply, _, passes⟩

/-- From wherever it is a dialogue can come to its end, `.done a`. -/
theorem exists_end {α : Type} (d : Dialogue α) (g : Watch) :
    ∃ t a g', Path d t (.done a) ∧ steps.Through g t g' := by
  induction d generalizing g with
  | done a => exact ⟨[], a, g, .here _, .here g⟩
  | ask r next ih =>
    obtain ⟨reply, g', step⟩ := g.exists_step r
    obtain ⟨t, a, g'', path, through⟩ := ih reply g'
    exact ⟨⟨r, reply⟩ :: t, a, g'', .step reply path, .step step through⟩

/-! ## §2. A standing flag -/

/-- The flag is raised, and nothing ahead lowers it. -/
def Stands (g : Watch) : Prop := ∀ k, (g.behind k).raised = true

theorem Stands.raised (stands : g.Stands) : g.signal.raised = true := stands 0

/-- A watch whose signal and moments are those behind some moments of another one. -/
theorem Stands.drop {k : Nat} (stands : g.Stands) (ahead : g'.ahead = g.ahead.drop k)
    (alike : StopSignal.Alike g'.signal (g.behind k)) : g'.Stands := by
  intro j
  unfold behind
  rw [ahead, (alike.through _).raised]
  unfold behind
  rw [← StopSignal.through_append, ← List.take_add]
  exact stands (k + j)

theorem Stands.waited (stands : g.Stands) (ms : UInt64) : (g.waited ms).Stands :=
  stands.drop rfl (StopSignal.alike_wait _ _ _ _)

/-- A flag that `Stands` does so whatever is asked. -/
theorem Stands.step (stands : g.Stands) (step : steps g x g') : g'.Stands := by
  rcases steps_cases step with ⟨-, rfl⟩ | ⟨ms, -, rfl⟩ | ⟨-, -, now, k, -, rfl⟩
  · exact stands
  · exact stands.waited ms
  · exact stands.drop rfl ⟨rfl, rfl⟩

/-- A call leaves a raised flag unseen (`Alert`). -/
theorem alert_step (alert : g.signal.Alert) (step : steps g x g')
    (other : ∀ ms, x.request ≠ .wait ms) : g'.signal.Alert := by
  rcases steps_cases step with ⟨-, rfl⟩ | ⟨ms, rfl, -⟩ | ⟨-, -, now, k, -, rfl⟩
  · exact alert
  · exact absurd rfl (other ms)
  · exact alert.through _

theorem alert_through (through : steps.Through g t g') (alert : g.signal.Alert)
    (other : ∀ y ∈ t, ∀ ms, y.request ≠ .wait ms) : g'.signal.Alert := by
  induction through with
  | here g => exact alert
  | step first _ ih =>
    exact ih (alert_step alert first (other _ List.mem_cons_self))
      fun y member => other y (List.mem_cons_of_mem _ member)

/-- The steps of a watch in which no wait takes time. -/
def stepsAtOnce : Surroundings Watch := fun g x g' =>
  steps g x g' ∧ ∀ ms, x.request = .wait ms → g'.now = g.now

theorem atOnce_of_quiet (through : steps.Through g t g')
    (other : ∀ y ∈ t, ∀ ms, y.request ≠ .wait ms) : stepsAtOnce.Through g t g' := by
  induction through with
  | here g => exact .here g
  | step first _ ih =>
    exact .step ⟨first, fun ms same => absurd same (other _ List.mem_cons_self ms)⟩
      (ih fun y member => other y (List.mem_cons_of_mem _ member))

/-- A wait that meets a raised flag unseen (`wakes`) takes no time. -/
theorem now_waited (wakes : g.signal.wakes = true) (ms : UInt64) : (g.waited ms).now = g.now := by
  show (g.signal.wait _ _ _).ended = _
  rw [StopSignal.wait_of_wakes wakes]

/-! ## §3. How long a wait lasts -/

/-- The flag is down until the moment, and the moment raises it. -/
def RaisedBy (g : Watch) (m : Nat × List SignalEvent) (rest : List (Nat × List SignalEvent)) :
    Prop :=
  ∃ before, g.ahead = before ++ m :: rest ∧
    (∀ k ≤ before.length, (g.behind k).raised = false) ∧
    (g.behind (before.length + 1)).raised = true

/-- A wait in which the flag comes to stand ends with the moment that raises it (`RaisedBy`). -/
theorem raisedBy_of_waited (alert : g.signal.Alert) (fallen : ¬ g.Stands)
    (stands : (g.waited ms).Stands) :
    ∃ m, g.RaisedBy m (g.waited ms).ahead ∧ (g.waited ms).now = max g.now m.1 := by
  cases lowered : g.signal.raised with
  | true =>
    -- then the wait would end before the first moment, and the flag would have stood before
    have same : g.wait ms = ⟨g.now, 0, g.signal.seen⟩ :=
      StopSignal.wait_of_wakes (alert.wakes lowered) _
    have signal : (g.waited ms).signal = g.signal.seen := congrArg Wait.signal same
    have ahead : (g.waited ms).ahead = g.ahead := by
      show g.ahead.drop (g.wait ms).passed = _
      rw [same, List.drop_zero]
    refine absurd (stands.drop (k := 0) ahead.symm ?_) fallen
    show StopSignal.Alike g.signal (g.waited ms).signal
    rw [signal]
    exact ⟨rfl, rfl⟩
  | false =>
    have raised : (g.signal.wait (g.now + min ms.toNat Wait.longest) g.now g.ahead).signal.raised
        = true := stands.raised
    obtain ⟨before, m, rest, split, passed, down, ended⟩ :=
      StopSignal.wait_raised g.ordered lowered raised
    have passed : (g.wait ms).passed = before.length + 1 := passed
    have dropped : g.ahead.drop (before.length + 1) = rest := by
      rw [split]
      simp [List.drop_append]
    refine ⟨m, ⟨before, ?_, down, ?_⟩, ended⟩
    · show g.ahead = before ++ m :: g.ahead.drop (g.wait ms).passed
      rw [passed, dropped, split]
    · rw [← passed]
      exact (StopSignal.alike_wait _ _ _ _).raised.symm.trans stands.raised

/-- Without its sender and with its flag down, a signal lets a wait last to its end, or to
    `Wait.longest`. -/
theorem now_waited_of_gone (gone : g.signal.connected = false) (lowered : g.signal.raised = false)
    (ms : UInt64) : (g.waited ms).now = g.now + min ms.toNat Wait.longest :=
  StopSignal.wait_down fun k => by
    rw [StopSignal.through_disconnected gone]
    exact lowered

/-- The second watch is the first one with more `send false`: among what the sender did before,
    and among what it does at the moments ahead or at moments of their own. None of them
    overtakes a raised flag that was not seen. -/
structure MoreFalses (g g' : Watch) : Prop where
  now : g'.now = g.now
  signal : ∃ s events events', StopSignal.MoreFalses s events events' ∧
    g.signal = s.afterAll events ∧ g'.signal = s.afterAll events'
  ahead : StopSignal.MoreFalsesAhead g.signal g.ahead g'.ahead

/-- Flags that are sent and not raised (`MoreFalses`) do not change when a wait ends. -/
theorem MoreFalses.now_waited (more : g.MoreFalses g') (ms : UInt64) :
    (g'.waited ms).now = (g.waited ms).now := by
  obtain ⟨now, ⟨s, events, events', earlier, signal, signal'⟩, ahead⟩ := more
  have same : StopSignal.Matches g.signal g'.signal := by
    rw [signal, signal']
    exact earlier.matches ⟨rfl, rfl⟩
  show (g'.signal.wait (g'.now + _) g'.now g'.ahead).ended =
    (g.signal.wait (g.now + _) g.now g.ahead).ended
  rw [now]
  exact ahead.ended g'.ordered same

/-! ## §4. Rehearsals -/

section Rehearsals

open Rehearsal

/-- Changes to a world change its signal as their sender does. -/
theorem signal_applyAll (w : World) (setups : List Setup) :
    (w.applyAll setups).signal = w.signal.afterAll (signalEvents setups) := by
  have stored (w : World) (f : VolatileCheckpoint → VolatileCheckpoint) :
      (w.mapVolatile f).signal = w.signal := by
    unfold World.mapVolatile
    split <;> rfl
  induction setups generalizing w with
  | nil => rfl
  | cons setup rest ih =>
    show ((w.apply setup).applyAll rest).signal = _
    rw [ih]
    cases setup with
    | signal event => rfl
    | refuseCursors on => rw [World.apply, stored]; rfl
    | refuseSnapshots on => rw [World.apply, stored]; rfl
    | _ => rfl

/-- An answer leaves the signal as it is. -/
theorem signal_answer (r : Request) (w : World) : (World.answer r w).2.signal = w.signal := by
  have disturbed {c : Channel} {failure : Option Failure} {w' : World}
      (found : w.disturbed c = (failure, w')) : w'.signal = w.signal := by
    unfold World.disturbed at found
    split at found
    · cases found
      rfl
    · split at found <;> cases found <;> rfl
  cases r with
  | source q =>
    rcases found : w.disturbed (.ofQuery q) with ⟨_ | failure, w'⟩
    all_goals
      simp only [World.answer, found]
      exact disturbed found
  | submit update =>
    rcases found : w.disturbed .submission with ⟨_ | failure, w'⟩
    all_goals
      simp only [World.answer, found]
      exact disturbed found
  | checkpoint q => cases stored : w.store <;> simp only [World.answer, World.answerStore, stored]
  | stopRequested => rfl
  | wait ms => rfl

/-- The moments of a stage at which the sender of the signal acts. -/
def acts (s : Stage) : List (Nat × List SignalEvent) :=
  s.ahead.map fun m => (m.time, signalEvents m.setups)

/-- The watch of a stage. -/
def ofStage (s : Stage) (ordered : (acts s).Pairwise fun m n => m.1 ≤ n.1) : Watch :=
  ⟨s.now, s.world.signal, acts s, ordered⟩

/-- A stage whose cues leave the signal alone answers as its watch goes on. -/
theorem steps_stage {p : Plan} (silent : ∀ c ∈ p.cues, signalEvents c.setups = [])
    (r : Request) (s : Stage) (ordered : (acts s).Pairwise fun m n => m.1 ≤ n.1) :
    ∃ ordered', steps (ofStage s ordered) ⟨r, (Stage.answer p r s).1⟩
      (ofStage (Stage.answer p r s).2 ordered') := by
  -- a call takes no time, and no moment comes to pass
  have call {s' : Stage} (now : s'.now = s.now) (signal : s'.world.signal = s.world.signal)
      (ahead : s'.ahead = s.ahead) :
      ∃ ordered', (ofStage s ordered).Passes (ofStage s' ordered') := by
    obtain ⟨world, time, readings, queries, moments⟩ := s'
    obtain rfl : time = s.now := now
    obtain rfl : moments = s.ahead := ahead
    refine ⟨ordered, s.now, 0, Nat.le_refl _, ?_⟩
    unfold ofStage later behind
    rw [signal]
    rfl
  have cued (point : CuePoint) (number : Nat) : signalEvents (Stage.cued p point number) = [] := by
    unfold signalEvents Stage.cued
    rw [List.filterMap_flatMap, List.flatMap_eq_nil_iff]
    intro c member
    exact silent c (List.mem_filter.mp member).1
  have disturbs (point : CuePoint) (number : Nat) :
      (s.world.applyAll (Stage.cued p point number)).signal = s.world.signal := by
    rw [signal_applyAll, cued]
    rfl
  have plain (r : Request) : (World.answer r s.world).2.signal = s.world.signal :=
    signal_answer r s.world
  cases r with
  | source q =>
    cases q with
    | head =>
      by_cases beyond : p.readings < s.readings + 1
      · simp only [Stage.answer, if_pos beyond]
        exact call rfl rfl rfl
      · simp only [Stage.answer, if_neg beyond]
        have signal := (signal_answer (.source .head) _).trans (disturbs .reading (s.readings + 1))
        exact call rfl signal rfl
    | logs filter =>
      have signal :=
        (signal_answer (.source (.logs filter)) _).trans (disturbs .query (s.queries + 1))
      exact call rfl signal rfl
    | registrySize => exact call rfl (plain (.source .registrySize)) rfl
    | stakerAt index => exact call rfl (plain (.source (.stakerAt index))) rfl
    | stakerInfo staker => exact call rfl (plain (.source (.stakerInfo staker))) rfl
  | submit update => exact call rfl (plain (.submit update)) rfl
  | checkpoint q => exact call rfl (plain (.checkpoint q)) rfl
  | stopRequested => exact ⟨ordered, rfl, rfl⟩
  | wait ms =>
    have moments : acts (s.wait ms) = (acts s).drop ((ofStage s ordered).wait ms).passed :=
      List.map_drop
    have ordered' : (acts (s.wait ms)).Pairwise fun m n => m.1 ≤ n.1 := by
      rw [moments]
      exact ordered.drop
    refine ⟨ordered', ?_⟩
    show (⟨_, _, acts (s.wait ms), ordered'⟩ : Watch) = ⟨_, _, (acts s).drop _, _⟩
    simp only [moments]
    rfl

/-- So does everything that is asked in a rehearsal. -/
theorem through_stage {α : Type} {p : Plan}
    (silent : ∀ c ∈ p.cues, signalEvents c.setups = []) (d : Dialogue α) (s : Stage)
    (ordered : (acts s).Pairwise fun m n => m.1 ≤ n.1) :
    ∃ ordered', steps.Through (ofStage s ordered) (d.exchanges (Stage.answer p) s)
      (ofStage (d.run (Stage.answer p) s).2 ordered') := by
  induction d generalizing s with
  | done a => exact ⟨ordered, .here _⟩
  | ask r next ih =>
    obtain ⟨between, step⟩ := steps_stage silent r s ordered
    obtain ⟨ordered', rest⟩ := ih (Stage.answer p r s).1 (Stage.answer p r s).2 between
    exact ⟨ordered', .step step rest⟩

end Rehearsals

end Watch

end StakeRelay
