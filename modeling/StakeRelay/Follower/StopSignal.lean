/-
  StakeRelay.Follower.StopSignal — how a stop is requested, and how long a wait lasts.

  The signal is a flag that its sender may set and reset any number of times, until the
  sender is gone. The follower sees two things: the flag, and whether the flag was sent
  again since the follower last looked up from a wait.

  A wait ends at its deadline, or as soon as the follower sees a newly sent flag that is
  raised. A flag that was sent again but is not raised neither shortens nor lengthens it.
  What the sender does at the very deadline is seen by the next wait only. No wait is
  longer than `Wait.longest`, which is a limit of the timer.
-/

namespace StakeRelay

/-- The stop signal as the follower sees it. -/
structure StopSignal where
  /-- The flag. -/
  raised : Bool
  /-- Whether the flag was sent again since the last look. -/
  unseen : Bool
  /-- Whether the sender is still there. -/
  connected : Bool
  deriving Repr, DecidableEq

/-- What the sender does. -/
inductive SignalEvent
  | send (raised : Bool)
  | disconnect
  deriving Repr, DecidableEq

namespace StopSignal

/-- The signal before the sender does anything. -/
def initial (raised : Bool) : StopSignal := ⟨raised, false, true⟩

/-- The signal after the sender did something. -/
def after (s : StopSignal) : SignalEvent → StopSignal
  | .send raised => if s.connected then { s with raised := raised, unseen := true } else s
  | .disconnect => { s with connected := false }

/-- The signal after the follower looked. -/
def seen (s : StopSignal) : StopSignal := { s with unseen := false }

/-- Whether a look ends a wait. -/
def wakes (s : StopSignal) : Bool := s.unseen && s.raised

end StopSignal

/-- How a wait went. -/
structure Wait where
  /-- The time of its end. -/
  ended : Nat
  /-- How many of the moments ahead came to pass during it. -/
  passed : Nat
  /-- The signal after it. -/
  signal : StopSignal
  deriving Repr, DecidableEq

/-- The longest wait: thirty years of 365 days, in milliseconds. This is an assumption about
    the timer that the follower waits with, which cuts a longer delay: nothing in the follower
    itself bounds its interval. -/
def Wait.longest : Nat := 30 * 365 * 24 * 60 * 60 * 1000

/-- A wait from `now` to `deadline`. Ahead of it lie moments at which the sender acts, in
    the order of their times. -/
def StopSignal.wait (deadline : Nat) :
    Nat → StopSignal → List (Nat × List SignalEvent) → Wait
  | now, s, [] => ⟨if s.wakes then now else deadline, 0, s.seen⟩
  | now, s, (time, events) :: rest =>
    if s.wakes then ⟨now, 0, s.seen⟩
    else if deadline ≤ time then ⟨deadline, 0, s.seen⟩
    else
      let w := StopSignal.wait deadline (max now time) (events.foldl StopSignal.after s.seen) rest
      { w with passed := w.passed + 1 }

end StakeRelay
