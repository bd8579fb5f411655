/-
  StakeRelay.Proofs.Follower.Waiting — how long a wait lasts.

  A wait looks at the signal when it begins and whenever the sender acts. What counts is
  whether a look finds a newly sent flag that is raised: the moment that raises the flag ends
  the wait, and nothing else does before the deadline. A flag that is sent and not raised is
  looked at and forgotten, so it may come any number of times, unless it overtakes a raised
  one that no look has found yet.

  Main statements:
    * `wait_down` — a wait in which the flag is never raised lasts to its deadline;
    * `wait_raised` — a wait in which it is raised ends with the moment that raises it;
    * `MoreFalsesAhead.ended` — any number of `send false` that overtake no raised flag do not
      change when a wait ends.
-/

import StakeRelay.Follower.StopSignal

namespace StakeRelay.StopSignal

variable {s s' : StopSignal} {events falses : List SignalEvent}
  {ahead a b : List (Nat × List SignalEvent)} {deadline now time : Nat}

/-! ## §1. The signal as time goes on -/

theorem after_send (s : StopSignal) (flag : Bool) :
    s.after (.send flag) = if s.connected then ⟨flag, true, s.connected⟩ else s := rfl

/-- The signal after the sender acted several times. -/
def afterAll (s : StopSignal) (events : List SignalEvent) : StopSignal := events.foldl after s

/-- The signal after some moments. -/
def through (s : StopSignal) (ahead : List (Nat × List SignalEvent)) : StopSignal :=
  ahead.foldl (fun s m => s.afterAll m.2) s

/-- Moments `a ++ b` act as `a` and then `b`. -/
theorem through_append (s : StopSignal) (a b : List (Nat × List SignalEvent)) :
    s.through (a ++ b) = (s.through a).through b := List.foldl_append

/-- Two signals that differ at most in what was seen. -/
structure Alike (s s' : StopSignal) : Prop where
  raised : s.raised = s'.raised
  connected : s.connected = s'.connected

/-- A look, `seen`, changes at most what was seen. -/
theorem alike_seen (s : StopSignal) : Alike s.seen s := ⟨rfl, rfl⟩

theorem Alike.trans {s'' : StopSignal} (first : Alike s s') (second : Alike s' s'') :
    Alike s s'' := ⟨first.raised.trans second.raised, first.connected.trans second.connected⟩

/-- Signals that are `Alike` stay so behind an event. -/
theorem Alike.after (alike : Alike s s') (e : SignalEvent) : Alike (s.after e) (s'.after e) := by
  obtain ⟨raised, connected⟩ := alike
  cases e with
  | disconnect => exact ⟨raised, rfl⟩
  | send flag =>
    rw [after_send, after_send, connected]
    split
    · exact ⟨rfl, rfl⟩
    · exact ⟨raised, connected⟩

theorem Alike.afterAll (alike : Alike s s') (events : List SignalEvent) :
    Alike (s.afterAll events) (s'.afterAll events) := by
  induction events generalizing s s' with
  | nil => exact alike
  | cons e rest ih => exact ih (alike.after e)

/-- And behind any moments `ahead`. -/
theorem Alike.through (alike : Alike s s') (ahead : List (Nat × List SignalEvent)) :
    Alike (s.through ahead) (s'.through ahead) := by
  induction ahead generalizing s s' with
  | nil => exact alike
  | cons m rest ih => exact ih (alike.afterAll m.2)

/-- A raised flag was not seen yet. -/
def Alert (s : StopSignal) : Prop := s.raised = true → s.unseen = true

/-- An event leaves a raised flag unseen (`Alert`). -/
theorem Alert.after (alert : s.Alert) (e : SignalEvent) : (s.after e).Alert := by
  cases e with
  | disconnect => exact alert
  | send flag =>
    rw [after_send]
    split
    · exact fun _ => rfl
    · exact alert

theorem Alert.afterAll (alert : s.Alert) (events : List SignalEvent) :
    (s.afterAll events).Alert := by
  induction events generalizing s with
  | nil => exact alert
  | cons e rest ih => exact ih (alert.after e)

/-- So do any moments: a flag that is raised anew is not seen yet. -/
theorem Alert.through (alert : s.Alert) (ahead : List (Nat × List SignalEvent)) :
    (s.through ahead).Alert := by
  induction ahead generalizing s with
  | nil => exact alert
  | cons m rest ih => exact ih (alert.afterAll m.2)

/-- A flag that is down is no raised flag that was seen, so it is `Alert`. -/
theorem alert_of_lowered (lowered : s.raised = false) : s.Alert := fun raised => by
  rw [lowered] at raised
  cases raised

/-- A raised flag that was not seen wakes: `s.wakes`. -/
theorem Alert.wakes (alert : s.Alert) (raised : s.raised = true) : s.wakes = true := by
  unfold StopSignal.wakes
  rw [alert raised, raised]
  rfl

/-- A flag that is down wakes nobody. -/
theorem asleep_of_lowered (lowered : s.raised = false) : ¬ s.wakes = true := by
  unfold wakes
  rw [lowered, Bool.and_false]
  exact Bool.false_ne_true

/-- Without its sender a signal stays as it is, through any moments. -/
theorem through_disconnected (gone : s.connected = false)
    (ahead : List (Nat × List SignalEvent)) : s.through ahead = s := by
  have still (events : List SignalEvent) : s.afterAll events = s := by
    induction events with
    | nil => rfl
    | cons e rest ih =>
      have same : s.after e = s := by
        cases e with
        | disconnect =>
          unfold after
          rw [← gone]
        | send flag => exact if_neg (by rw [gone]; exact Bool.false_ne_true)
      unfold afterAll at ih ⊢
      rw [List.foldl_cons, same, ih]
  induction ahead with
  | nil => rfl
  | cons m rest ih =>
    unfold through at ih ⊢
    rw [List.foldl_cons, still, ih]

/-! ## §2. The end of a wait -/

theorem wait_cons (deadline now : Nat) (s : StopSignal) (time : Nat) (events : List SignalEvent)
    (rest : List (Nat × List SignalEvent)) :
    wait deadline now s ((time, events) :: rest) =
      if s.wakes then ⟨now, 0, s.seen⟩
      else if deadline ≤ time then ⟨deadline, 0, s.seen⟩
      else
        let w := wait deadline (max now time) (s.seen.afterAll events) rest
        { w with passed := w.passed + 1 } := rfl

/-- A wait that begins while `s.wakes` ends at once. -/
theorem wait_of_wakes (wakes : s.wakes = true) (ahead : List (Nat × List SignalEvent)) :
    wait deadline now s ahead = ⟨now, 0, s.seen⟩ := by
  cases ahead with
  | nil =>
    unfold wait
    rw [if_pos wakes]
  | cons m rest => exact if_pos wakes

/-- The signal behind a wait is `s.through` the moments that came to pass, but for what was
    seen. -/
theorem alike_wait (deadline now : Nat) (s : StopSignal) (ahead : List (Nat × List SignalEvent)) :
    Alike (wait deadline now s ahead).signal
      (s.through (ahead.take (wait deadline now s ahead).passed)) := by
  induction ahead generalizing now s with
  | nil => exact alike_seen s
  | cons m rest ih =>
    obtain ⟨time, events⟩ := m
    rw [wait_cons]
    split
    · exact alike_seen s
    split
    · exact alike_seen s
    · exact (ih _ _).trans (((alike_seen s).afterAll events).through _)

/-- A wait in which the flag is never raised lasts to its `deadline`. -/
theorem wait_down (down : ∀ k, (s.through (ahead.take k)).raised = false) :
    (wait deadline now s ahead).ended = deadline := by
  induction ahead generalizing now s with
  | nil =>
    have asleep : ¬ s.wakes = true := asleep_of_lowered (down 0)
    unfold wait
    rw [if_neg asleep]
  | cons m rest ih =>
    obtain ⟨time, events⟩ := m
    have asleep : ¬ s.wakes = true := asleep_of_lowered (down 0)
    have later (k : Nat) : ((s.seen.afterAll events).through (rest.take k)).raised = false :=
      (((alike_seen s).afterAll events).through _).raised.trans (down (k + 1))
    rw [wait_cons, if_neg asleep]
    split
    · rfl
    · exact ih later

/-- A wait in which it is raised ends with the moment `m` that raises it, or at once if `m` is
    over. -/
theorem wait_raised (ordered : ahead.Pairwise fun m n => m.1 ≤ n.1) (lowered : s.raised = false)
    (raised : (wait deadline now s ahead).signal.raised = true) :
    ∃ before m behind, ahead = before ++ m :: behind ∧
      (wait deadline now s ahead).passed = before.length + 1 ∧
      (∀ k ≤ before.length, (s.through (ahead.take k)).raised = false) ∧
      (wait deadline now s ahead).ended = max now m.1 := by
  induction ahead generalizing now s with
  | nil =>
    have same : (wait deadline now s []).signal.raised = s.raised := rfl
    rw [same, lowered] at raised
    cases raised
  | cons m rest ih =>
    obtain ⟨time, events⟩ := m
    obtain ⟨first, ordered⟩ := List.pairwise_cons.mp ordered
    rw [wait_cons, if_neg (asleep_of_lowered lowered)] at raised ⊢
    split at raised
    · exact absurd (lowered.symm.trans raised) Bool.false_ne_true
    rename_i early
    rw [if_neg early]
    cases now_raised : (s.seen.afterAll events).raised with
    | true =>
      -- the moment raises the flag, and the next look finds it
      have alert : (s.seen.afterAll events).Alert :=
        (alert_of_lowered (show s.seen.raised = false from lowered)).afterAll events
      rw [wait_of_wakes (alert.wakes now_raised)]
      refine ⟨[], (time, events), rest, rfl, rfl, fun k none => ?_, rfl⟩
      rw [Nat.le_zero.mp none]
      exact lowered
    | false =>
      obtain ⟨before, m, behind, rfl, passed, down, ended⟩ := ih ordered now_raised raised
      refine ⟨(time, events) :: before, m, behind, rfl, congrArg (· + 1) passed, ?_, ?_⟩
      · intro k within
        cases k with
        | zero => exact lowered
        | succ k =>
          exact (((alike_seen s).afterAll events).through _).raised.symm.trans
            (down k (Nat.le_of_succ_le_succ within))
      · have soon : time ≤ m.1 := first m (List.mem_append_right _ List.mem_cons_self)
        show (wait deadline (max now time) _ _).ended = _
        rw [ended]
        omega

/-! ## §3. Flags that are not raised -/

/-- Two signals that a look cannot tell apart, now or after the sender acted. -/
structure Matches (s s' : StopSignal) : Prop where
  wakes : s.wakes = s'.wakes
  connected : s.connected = s'.connected

theorem Matches.trans {s'' : StopSignal} (first : Matches s s') (second : Matches s' s'') :
    Matches s s'' := ⟨first.wakes.trans second.wakes, first.connected.trans second.connected⟩

/-- Behind a look it only matters whether the sender is `connected`. -/
theorem matches_seen (connected : s.connected = s'.connected) : Matches s.seen s'.seen :=
  ⟨rfl, connected⟩

/-- Signals that a look cannot tell apart (`Matches`) stay so behind an event. -/
theorem Matches.after (same : Matches s s') (e : SignalEvent) :
    Matches (s.after e) (s'.after e) := by
  obtain ⟨wakes, connected⟩ := same
  cases e with
  | disconnect => exact ⟨wakes, rfl⟩
  | send raised =>
    rw [after_send, after_send, connected]
    split
    · exact ⟨rfl, rfl⟩
    · exact ⟨wakes, connected⟩

theorem Matches.afterAll (same : Matches s s') (events : List SignalEvent) :
    Matches (s.afterAll events) (s'.afterAll events) := by
  induction events generalizing s s' with
  | nil => exact same
  | cons e rest ih => exact ih (same.after e)

/-- When a wait ends depends on what the looks can tell (`Matches`). -/
theorem wait_congr (same : Matches s s') :
    (wait deadline now s ahead).ended = (wait deadline now s' ahead).ended := by
  induction ahead generalizing now s s' with
  | nil =>
    unfold wait
    rw [same.wakes]
  | cons m rest ih =>
    obtain ⟨time, events⟩ := m
    rw [wait_cons, wait_cons, same.wakes]
    split
    · rfl
    split
    · rfl
    · exact ih ((matches_seen same.connected).afterAll events)

/-- `MoreFalses s events events'`: the second list is the first one with more `send false`.
    From the signal `s` on, each of them is sent while no raised flag is unseen, so that it
    overtakes none. -/
inductive MoreFalses : StopSignal → List SignalEvent → List SignalEvent → Prop
  | none (s : StopSignal) : MoreFalses s [] []
  | same {s : StopSignal} {e : SignalEvent} {events events' : List SignalEvent}
      (rest : MoreFalses (s.after e) events events') : MoreFalses s (e :: events) (e :: events')
  | more {s : StopSignal} {events events' : List SignalEvent} (asleep : s.wakes = false)
      (rest : MoreFalses (s.after (.send false)) events events') :
      MoreFalses s events (.send false :: events')

/-- A `send false` wakes nobody who is asleep. -/
theorem matches_after_false (asleep : s.wakes = false) : Matches s (s.after (.send false)) := by
  rw [after_send]
  split
  · exact ⟨asleep, rfl⟩
  · exact ⟨rfl, rfl⟩

/-- More `send false` leave a signal that no look can tell apart from the one without them. -/
theorem MoreFalses.matches (more : MoreFalses s events falses) (same : Matches s s') :
    Matches (s.afterAll events) (s'.afterAll falses) := by
  induction more generalizing s' with
  | none s => exact same
  | same rest ih => exact ih (same.after _)
  | @more s events _ asleep rest ih =>
    exact ((matches_after_false asleep).afterAll events).trans (ih (same.after _))

/-- `MoreFalsesAhead s ahead ahead'`: the second moments are the first ones with more
    `send false`, at moments of the first ones and at moments of their own. A wait that begins
    with the signal `s` looks ahead of each of them, so nothing is unseen when it comes. -/
inductive MoreFalsesAhead :
    StopSignal → List (Nat × List SignalEvent) → List (Nat × List SignalEvent) → Prop
  | none (s : StopSignal) : MoreFalsesAhead s [] []
  | moment {s : StopSignal} (time : Nat) {events events' : List SignalEvent}
      {rest rest' : List (Nat × List SignalEvent)} (acts : MoreFalses s.seen events events')
      (later : MoreFalsesAhead (s.seen.afterAll events) rest rest') :
      MoreFalsesAhead s ((time, events) :: rest) ((time, events') :: rest')
  | extra {s : StopSignal} (time : Nat) {events' : List SignalEvent}
      {ahead rest' : List (Nat × List SignalEvent)} (acts : MoreFalses s.seen [] events')
      (later : MoreFalsesAhead s ahead rest') : MoreFalsesAhead s ahead ((time, events') :: rest')

/-- The times of the moments `a` are among those of `b`. -/
theorem MoreFalsesAhead.times (more : MoreFalsesAhead s a b) : ∀ m ∈ a, ∃ n ∈ b, m.1 = n.1 := by
  induction more with
  | none s => nofun
  | moment time acts later ih =>
    intro m member
    rcases List.mem_cons.mp member with rfl | member
    · exact ⟨_, List.mem_cons_self, rfl⟩
    · obtain ⟨n, among, same⟩ := ih m member
      exact ⟨n, List.mem_cons_of_mem _ among, same⟩
  | extra time acts later ih =>
    intro m member
    obtain ⟨n, among, same⟩ := ih m member
    exact ⟨n, List.mem_cons_of_mem _ among, same⟩

/-- A wait that nothing `wakes` may begin as late as its first moment. -/
theorem wait_later (asleep : ¬ s.wakes = true) (behind : ∀ m ∈ ahead, time ≤ m.1) :
    (wait deadline (max now time) s ahead).ended = (wait deadline now s ahead).ended := by
  cases ahead with
  | nil =>
    unfold wait
    rw [if_neg asleep, if_neg asleep]
  | cons m rest =>
    obtain ⟨time', events⟩ := m
    have soon : time ≤ time' := behind _ List.mem_cons_self
    have meet : max (max now time) time' = max now time' := by omega
    rw [wait_cons, wait_cons, if_neg asleep, if_neg asleep, meet]

/-- A wait that nothing wakes before its `deadline` lasts until then. -/
theorem wait_late (asleep : ¬ s.wakes = true) (late : ∀ m ∈ ahead, deadline ≤ m.1) :
    (wait deadline now s ahead).ended = deadline := by
  cases ahead with
  | nil =>
    unfold wait
    rw [if_neg asleep]
  | cons m rest => rw [wait_cons, if_neg asleep, if_pos (late m List.mem_cons_self)]

/-- More `send false` do not change when a wait ends. -/
theorem MoreFalsesAhead.ended (more : MoreFalsesAhead s a b)
    (ordered : b.Pairwise fun m n => m.1 ≤ n.1) (same : Matches s s') :
    (wait deadline now s' b).ended = (wait deadline now s a).ended := by
  induction more generalizing now s' with
  | none s => exact (wait_congr same).symm
  | moment time acts later ih =>
    rw [wait_cons, wait_cons, same.wakes]
    split
    · rfl
    split
    · rfl
    · exact ih (List.pairwise_cons.mp ordered).2 (acts.matches (matches_seen same.connected))
  | @extra s time events a rest acts later ih =>
    obtain ⟨first, ordered⟩ := List.pairwise_cons.mp ordered
    -- nothing of `a` comes before the moment that is added
    have behind : ∀ m ∈ a, time ≤ m.1 := by
      intro m member
      obtain ⟨n, among, equal⟩ := later.times m member
      rw [equal]
      exact first n among
    rw [wait_cons, ← same.wakes]
    split
    · rename_i wakes
      rw [wait_of_wakes wakes]
    rename_i asleep
    split
    · rename_i early
      exact (wait_late asleep fun m member => Nat.le_trans early (behind m member)).symm
    · have looked : Matches s s.seen := ⟨Bool.eq_false_iff.mpr asleep, rfl⟩
      have unmoved : Matches s (s'.seen.afterAll events) :=
        looked.trans (acts.matches (matches_seen same.connected))
      exact (ih ordered unmoved).trans (wait_later asleep behind)

end StakeRelay.StopSignal
