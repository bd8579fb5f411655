/-
  StakeRelay.Proofs.Follower.Granted — heights of a still world in which no call fails.

  Where no call fails, only a broken block can keep a height from being passed. What a
  follower has at a height is then the result of a walk (`walked`) from the height at which
  it started, and every height on the way was open to it: confirmed, and with a block that
  can be read.

  The converse holds as well. A follower that nobody asks to stop passes every open height
  with one round each.

  Main statements:
    * `Track.conducts_turns_came` — where a follower stands at the top of its loop;
    * `Track.conducts_turns_ahead` — how far it comes with a number of rounds.
-/

import StakeRelay.Proofs.Follower.StillWorld
import StakeRelay.Proofs.Number.Words

namespace StakeRelay

open Dialogue

/-! ## §1. Calls that do not fail -/

/-- The call does not fail. A registry entry that cannot be read is no failure of a
    follower, which goes on to the next one. -/
def Exchange.Granted : Exchange → Prop
  | ⟨.source .head, reply⟩ => ∃ head, reply = .ok head
  | ⟨.source (.logs _), reply⟩ => ∃ logs, reply = .ok logs
  | ⟨.source .registrySize, reply⟩ => ∃ size, reply = .ok size
  | ⟨.submit _, reply⟩ => ∃ u, reply = .ok u
  | ⟨.checkpoint _, reply⟩ => ∃ a, reply = .ok a
  | _ => True

section Granted

variable {γ : Type} {env G : Surroundings γ}
  (granted : ∀ g x g', env g x g' → x.Granted)
  (others : ∀ g x g', x.request.opensVisit = false → env g x g' → G g x g')

include granted others

/-- The registry half of a boundary, `commitRegistry`, comes to its end. -/
theorem Schedule.conducts_commit_granted (s : Schedule) (height : UInt64) (g : γ) :
    (s.commitRegistry height).run.Conducts env G (fun outcome _ => ∃ n, outcome = .ok n) g := by
  -- nothing is handed on from call to call but that each of them was granted
  refine conducts_commitRegistry (R := fun _ => True) (A := fun _ _ => True) (B := fun _ => True)
    (C := fun _ _ _ => True) (D := fun _ _ _ => True) (E := fun _ _ _ => True)
    ?size ?visited ?read ?skip ?submit ?saveTop ?saveCursor
  case size =>
    intro reply g' step
    obtain ⟨size, rfl⟩ := granted _ _ _ step
    exact ⟨others _ _ _ rfl step, trivial⟩
  case visited =>
    intro size g _
    refine (Walk.conducts_ranked s.walk size (P := fun _ => True) ?_ trivial).mono
      fun _ _ _ => ⟨trivial, trivial⟩
    intro r asks g reply g' _ step
    exact ⟨others _ _ _ asks.silent.goesOn step, trivial⟩
  case read =>
    intro top g reply g' _ _ step
    obtain ⟨last, rfl⟩ := granted _ _ _ step
    exact ⟨others _ _ _ rfl step, trivial⟩
  case skip => exact fun _ _ _ _ _ => trivial
  case submit =>
    intro top last g reply g' _ _ step
    obtain ⟨_, rfl⟩ := granted _ _ _ step
    exact ⟨others _ _ _ rfl step, trivial⟩
  case saveTop =>
    intro top last g reply g' _ _ step
    obtain ⟨_, rfl⟩ := granted _ _ _ step
    exact ⟨others _ _ _ rfl step, trivial⟩
  case saveCursor =>
    intro top last g reply g' _ step
    obtain ⟨_, rfl⟩ := granted _ _ _ step
    exact ⟨others _ _ _ rfl step, _, rfl⟩

/-- The deposit half of a boundary, `flush`, comes to its end. -/
theorem Schedule.conducts_flush_granted (e : OpenEpoch) (g : γ) :
    (flush e).Conducts env G (fun flushed _ => ∃ n, flushed.1 = .ok n) g := by
  refine conducts_flush (fun _ => ⟨_, rfl⟩) fun _ reply g' step => ?_
  obtain ⟨_, rfl⟩ := granted _ _ _ step
  exact ⟨others _ _ _ rfl step, _, rfl⟩

/-- The `work` at a height comes to its end if the block there can be read. A broken block is
    its only fault, and is found before anything else is asked. -/
theorem Follower.conducts_work_granted (scanner : Scanner) (schedule : Schedule)
    (height : UInt64) (e : OpenEpoch) (g : γ)
    (asked : ∀ reply g',
      env g ⟨.source (.logs (.ofBlock scanner.contract scanner.topic height)), reply⟩ g' →
      G g ⟨.source (.logs (.ofBlock scanner.contract scanner.topic height)), reply⟩ g') :
    (work scanner schedule height e).Conducts env G
      (fun done g' => ∃ logs g₁,
        env g ⟨.source (.logs (.ofBlock scanner.contract scanner.topic height)), .ok logs⟩ g₁ ∧
        match done.1 with
        | .ok _ => ∃ events, Scanner.decodeFrom height 0 logs = .ok events
        | .error failure =>
          Scanner.decodeFrom height 0 logs = .error failure ∧ done.2 = e ∧ g' = g₁) g := by
  refine conducts_work fun reply g₁ step => ⟨asked reply g₁ step, ?_⟩
  obtain ⟨logs, rfl⟩ := granted _ _ _ step
  dsimp only
  cases decoded : Scanner.decodeFrom height 0 logs with
  | error failure => exact ⟨logs, g₁, step, decoded, rfl, rfl⟩
  | ok events =>
    simp only
    split
    · refine Schedule.conducts_settle
        ((Schedule.conducts_flush_granted granted others _ g₁).mono ?_)
      intro flushed g₂ comes
      obtain ⟨outcome, e'⟩ := flushed
      obtain ⟨n, rfl⟩ := comes
      refine (Schedule.conducts_commit_granted granted others schedule height g₂).mono ?_
      intro outcome g₃ comes
      obtain ⟨counts, rfl⟩ := comes
      exact ⟨logs, g₁, step, events, decoded⟩
    · exact ⟨logs, g₁, step, events, decoded⟩

end Granted

/-! ## §2. Walks -/

variable {κ : Type}

/-- What the partners may answer if no call fails. -/
def StillWorld.grants (w : StillWorld κ) : Surroundings κ :=
  fun s x s' => w.answers s x s' ∧ x.Granted

namespace StillWorld

variable {w : StillWorld κ} {s s' : κ}

/-- A head that is told without a failure is that of the world. -/
theorem eq_head {reply : Except Failure UInt64} (step : w.grants s ⟨.source .head, reply⟩ s') :
    reply = .ok w.head := by
  obtain ⟨⟨-, known | ⟨failure, failed, -⟩⟩, head, told⟩ := step
  · exact known
  · rw [failed] at told
    cases told

/-- So are the logs. -/
theorem eq_logs {filter : LogFilter} {reply : Except Failure (List RawLog)}
    (step : w.grants s ⟨.source (.logs filter), reply⟩ s') : reply = .ok (w.logs filter) := by
  obtain ⟨⟨-, known | ⟨failure, failed, -⟩⟩, logs, told⟩ := step
  · exact known
  · rw [failed] at told
    cases told

end StillWorld

/-- The block that is asked for, if one is, lies below the greatest word. Behind it the
    count of the heights goes on without an overflow. -/
def Exchange.Fits : Exchange → Prop
  | ⟨.source (.logs filter), _⟩ => filter.last.toNat < 2 ^ 64 - 1
  | _ => True

theorem Exchange.fits_of_goesOn {x : Exchange} (goesOn : x.request.opensVisit = false) :
    x.Fits := by
  obtain ⟨request, reply⟩ := x
  cases request with
  | source q =>
    cases q with
    | logs filter => cases goesOn
    | _ => trivial
  | _ => trivial

namespace Track

variable (k : Track κ) (settings : FollowerSettings)

/-- What the heights from `h` on lead to, as many as are given. -/
def walked : Nat → UInt64 → Tally κ → Tally κ
  | 0, _, t => t
  | n + 1, h, t => walked n (h + 1) (k.passed h t)

/-- The block at a height can be read. -/
def Readable (h : UInt64) : Prop :=
  ∃ events, Scanner.decodeFrom h 0
    (k.world.logs (.ofBlock k.scanner.contract k.scanner.topic h)) = .ok events

/-- A follower with the given settings passes the height. -/
structure Open (h : UInt64) : Prop where
  fits : h.toNat < 2 ^ 64 - 1
  lively : settings.retryLimit ≠ 0
  confirmed : Saturating.add h settings.confirmations ≤ k.world.head
  readable : k.Readable h

/-- The walk from `t` at the height `first` comes to `t'` at `h`. -/
def Came (first : UInt64) (t : Tally κ) (h : UInt64) (t' : Tally κ) : Prop :=
  ∃ n, h.toNat = first.toNat + n ∧ t' = k.walked n first t ∧
    ∀ i < n, k.Open settings (first + .ofNat i)

variable {k settings} {first h : UInt64} {t t' : Tally κ}

theorem walked_add (m n : Nat) (h : UInt64) (t : Tally κ) :
    k.walked (m + n) h t = k.walked n (h + .ofNat m) (k.walked m h t) := by
  induction m generalizing h t with
  | zero =>
    rw [Nat.zero_add, Words.add_ofNat_zero]
    rfl
  | succ m ih =>
    rw [Nat.add_right_comm]
    show k.walked (m + n) (h + 1) (k.passed h t) = _
    rw [ih, Words.add_one_add]
    rfl

/-- A walk of one more height, `n + 1`. -/
theorem walked_succ (n : Nat) (h : UInt64) (t : Tally κ) :
    k.walked (n + 1) h t = k.passed (h + .ofNat n) (k.walked n h t) := walked_add n 1 h t

theorem Came.here (first : UInt64) (t : Tally κ) : k.Came settings first t first t :=
  ⟨0, rfl, rfl, fun _ => nofun⟩

theorem Came.step (came : k.Came settings first t h t') (opens : k.Open settings h) :
    k.Came settings first t (h + 1) (k.passed h t') := by
  obtain ⟨n, place, rfl, before⟩ := came
  have last : first + .ofNat n = h := Words.add_ofNat place
  refine ⟨n + 1, ?_, ?_, fun i below => ?_⟩
  · rw [Words.toNat_succ opens.fits, place]
    rfl
  · rw [walked_succ, last]
  · rcases Nat.lt_succ_iff_lt_or_eq.mp below with early | rfl
    · exact before i early
    · rw [last]
      exact opens

/-! ## §3. Rounds in which no call fails -/

/-- The steps of the still world where no call fails, with the account beside it. -/
abbrev granting (k : Track κ) : Surroundings (Chronicle × κ) :=
  (Chronicle.follows fun _ x => x.Fits).beside k.world.grants

theorem granting_steps (w : Chronicle × κ) (x : Exchange) (w' : Chronicle × κ)
    (step : k.granting w x w') : k.steps w x w' := ⟨⟨trivial, step.1.2⟩, step.2.1⟩

theorem granting_granted (w : Chronicle × κ) (x : Exchange) (w' : Chronicle × κ)
    (step : k.granting w x w') : x.Granted := step.2.2

/-- The work at a height passes it, or the block there cannot be read. -/
theorem conducts_work_granting {e : OpenEpoch} {w : Chronicle × κ} :
    (Follower.work k.scanner k.schedule h e).Conducts k.granting free
      (fun done w' =>
        match done.1 with
        | .ok _ => h.toNat < 2 ^ 64 - 1 ∧ k.Readable h ∧
          tally done.2 w' = k.passed h (tally e w)
        | .error _ => tally done.2 w' = tally e w) w := by
  -- one outline says what the work leads to, the other why it may fail
  have still := conducts_work_still (k := k) (h := h) (e := e) (w := w) (.inl rfl)
  have granted := Follower.conducts_work_granted (G := free) (granting_granted (k := k))
    (fun _ _ _ _ _ => trivial) k.scanner k.schedule h e w fun _ _ _ => trivial
  refine (granted.and still granting_steps).mono ?_
  intro done w' given
  obtain ⟨⟨logs, w₁, step, ends⟩, held⟩ := given
  obtain ⟨outcome, e'⟩ := done
  cases outcome with
  | error failure =>
    -- the block was all that was asked for
    obtain ⟨-, same, last⟩ := ends
    simp only at same ⊢
    rw [same, last]
    exact tally_quiet (granting_steps _ _ _ step) rfl step.2.1.1
  | ok report =>
    obtain ⟨events, whole⟩ := ends
    have fits : h.toNat < 2 ^ 64 - 1 := step.1.1
    injection StillWorld.eq_logs step.2 with known
    exact ⟨fits, ⟨events, known ▸ whole⟩, held⟩

/-- At the top of its loop a follower stands where the walk from its start `Came`, and so it
    does where it stops as it was asked to. -/
theorem conducts_turns_came (n : Nat) (first : UInt64) (w : Chronicle × κ) :
    (Follower.turns n (.ofSettings { settings with start := first } k.scanner k.schedule)).Conducts
      k.granting free
      (fun run w' => run.outcome = none ∨ run.outcome = some (.ok ()) →
        k.Came settings first (tally .fresh w) run.follower.current
          (tally run.follower.epoch w')) w := by
  -- no call fails, so the height is never left half done, and the walk alone is the invariant
  refine Follower.conducts_rounds
    (J := fun e h w' => k.Came settings first (tally .fresh w) h (tally e w'))
    (C := fun e h w' => k.Came settings first (tally .fresh w) h (tally e w') ∧
      settings.retryLimit ≠ 0 ∧ Saturating.add h settings.confirmations ≤ k.world.head)
    (R := settings.retryLimit ≠ 0) ?asked ?polled ?paused ?worked n _ ⟨rfl, rfl, rfl⟩ id w
    (.here _ _)
  case asked =>
    exact fun e h => calm_tally granting_steps e _ (fun _ _ => rfl) fun _ _ _ step => step
  case polled =>
    intro e h w₁ reply w₂ came step
    have calm := calm_tally (k := k) (P := k.Came settings first (tally .fresh w) h)
      granting_steps e (.source .head) (fun _ _ => rfl) fun _ _ _ step => step.1
    obtain ⟨-, came⟩ := calm w₁ reply w₂ came step
    refine ⟨trivial, came, fun head told lively enough => ⟨came, lively, ?_⟩⟩
    -- the head that was told is the one that stands still
    injection told.symm.trans (StillWorld.eq_head step.2) with known
    exact known ▸ enough
  case paused =>
    exact fun e h ms => calm_tally granting_steps e _ (fun _ _ => rfl) fun _ _ _ step => step
  case worked =>
    intro e h w₁ given
    obtain ⟨came, lively, confirmed⟩ := given
    refine conducts_work_granting.mono ?_
    intro done w₂ held
    obtain ⟨outcome, e'⟩ := done
    cases outcome with
    | ok report =>
      obtain ⟨fits, readable, passed⟩ := held
      simp only at passed ⊢
      rw [passed]
      exact came.step ⟨fits, lively, confirmed, readable⟩
    -- a broken block fails the run, and nothing is lost or gained by it
    | error failure =>
      intro _
      simp only at held ⊢
      rw [held]
      exact came

end Track

/-! ## §4. Rounds that go on -/

/-- Nobody asks the follower to stop. -/
def Exchange.Unasked : Exchange → Prop
  | ⟨.stopRequested, stop⟩ => stop = false
  | _ => True

/-- The still world as one that answers, and never asks to stop. -/
def StillWorld.answering (w : StillWorld κ) : Answering κ
  | .source .head, s => (.ok w.head, s)
  | .source (.logs filter), s => (.ok (w.logs filter), s)
  | .source .registrySize, s => (.ok w.registry.size, s)
  | .source (.stakerAt index), s => (w.registry.stakerAt index, s)
  | .source (.stakerInfo staker), s => (w.registry.stakerInfo staker, s)
  | .submit _, s => (.ok (), s)
  | .checkpoint q, s => w.store q s
  | .stopRequested, s => (false, s)
  | .wait _, s => ((), s)

/-- What the partners may answer if no call fails and nobody asks to stop. -/
def StillWorld.urges (w : StillWorld κ) : Surroundings κ :=
  fun s x s' => w.grants s x s' ∧ x.Unasked

/-- Every block that is asked for fits. -/
abbrev Surroundings.fitting : Surroundings κ := fun _ x _ => x.Fits

namespace StillWorld

variable {w : StillWorld κ}

theorem urges_granted (s : κ) (x : Exchange) (s' : κ) (step : w.urges s x s') : x.Granted :=
  step.1.2

/-- The answers are those that the partners may give, if the checkpoint does not fail. What
    the checkpoint keeps is kept by all of them. -/
theorem urges_answering {I : κ → Prop} {s : κ} (r : Request) (held : I s)
    (sound : ∀ q, (∃ a, (w.store q s).1 = .ok a) ∧ I (w.store q s).2) :
    w.urges s ⟨r, (w.answering r s).1⟩ (w.answering r s).2 ∧ I (w.answering r s).2 := by
  cases r with
  | source q =>
    cases q with
    | head => exact ⟨⟨⟨⟨rfl, .inl rfl⟩, _, rfl⟩, trivial⟩, held⟩
    | logs filter => exact ⟨⟨⟨⟨rfl, .inl rfl⟩, _, rfl⟩, trivial⟩, held⟩
    | registrySize => exact ⟨⟨⟨⟨rfl, .inl rfl⟩, _, rfl⟩, trivial⟩, held⟩
    | stakerAt index => exact ⟨⟨⟨⟨rfl, rfl⟩, trivial⟩, trivial⟩, held⟩
    | stakerInfo staker => exact ⟨⟨⟨⟨rfl, rfl⟩, trivial⟩, trivial⟩, held⟩
  | submit u => exact ⟨⟨⟨⟨rfl, rfl⟩, _, rfl⟩, trivial⟩, held⟩
  | checkpoint q =>
    obtain ⟨answered, after⟩ := sound q
    exact ⟨⟨⟨⟨rfl, answered⟩, answered⟩, trivial⟩, after⟩
  | stopRequested => exact ⟨⟨⟨rfl, trivial⟩, rfl⟩, held⟩
  | wait ms => exact ⟨⟨⟨rfl, trivial⟩, trivial⟩, held⟩

end StillWorld

namespace Track

variable {k : Track κ}

/-- The `work` at an open height comes to a result. -/
theorem conducts_work_ahead {settings : FollowerSettings} {h : UInt64}
    (opens : k.Open settings h) (e : OpenEpoch) (s : κ) :
    (Follower.work k.scanner k.schedule h e).Conducts k.world.urges .fitting
      (fun done _ => ∃ report, done.1 = .ok report) s := by
  refine (Follower.conducts_work_granted (G := .fitting) StillWorld.urges_granted
    (fun _ _ _ goesOn _ => Exchange.fits_of_goesOn goesOn) k.scanner k.schedule h e s
    fun _ _ _ => opens.fits).mono ?_
  intro done s' given
  obtain ⟨logs, s₁, step, ends⟩ := given
  obtain ⟨outcome, e'⟩ := done
  cases outcome with
  | ok report => exact ⟨report, rfl⟩
  | error failure =>
    -- the block that was answered is the one that can be read
    obtain ⟨broken, -, -⟩ := ends
    obtain ⟨events, whole⟩ := opens.readable
    injection StillWorld.eq_logs step.1 with known
    rw [known, whole] at broken
    cases broken

/-- A follower that nobody asks to stop passes as many `Open` heights as it has rounds. -/
theorem conducts_turns_ahead (n : Nat) (f : Follower) (ready : f.Ready)
    (scanner : f.scanner = k.scanner) (schedule : f.schedule = k.schedule)
    (opens : ∀ i < n, k.Open f.settings (f.current + .ofNat i)) (s : κ) :
    (Follower.turns n f).Conducts k.world.urges .fitting
      (fun run _ => run.outcome = none ∧ run.follower.current = f.current + .ofNat n) s := by
  -- induction on the rounds, each of which passes one open height
  induction n generalizing f s with
  | zero => exact ⟨rfl, (Words.add_ofNat_zero f.current).symm⟩
  | succ n ih =>
    have opened : k.Open f.settings f.current := by
      rw [← Words.add_ofNat_zero f.current]
      exact opens 0 n.zero_lt_succ
    unfold Follower.turns
    rw [bind_eq_bind, conducts_bind]
    refine (Follower.conducts_turn_ahead ready opened.lively ?unasked ?confirmed ?worked s).mono ?_
    case unasked => exact fun _ stop _ step => ⟨trivial, step.2⟩
    case confirmed =>
      intro _ reply _ step
      exact ⟨trivial, k.world.head, StillWorld.eq_head step.1, opened.confirmed⟩
    case worked =>
      rw [scanner, schedule]
      exact fun s => conducts_work_ahead opened f.epoch s
    intro t s' given
    obtain ⟨goesOn, ⟨settings, scanner', schedule'⟩, place, ready'⟩ := given
    simp only [goesOn]
    rw [bind_eq_bind, conducts_bind]
    refine (ih t.follower ready' (scanner'.trans scanner) (schedule'.trans schedule)
      (fun i below => ?_) s').mono ?_
    · rw [settings, place, Words.add_one_add]
      exact opens (i + 1) (Nat.succ_lt_succ below)
    · intro run _ given
      obtain ⟨open_, last⟩ := given
      exact ⟨open_, by rw [last, place, Words.add_one_add]⟩

end Track

end StakeRelay
