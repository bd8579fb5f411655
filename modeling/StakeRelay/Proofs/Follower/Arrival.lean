/-
  StakeRelay.Proofs.Follower.Arrival — failures that pass leave no trace.

  A run arrives at a height when that height is current for the first time at the top of
  the loop. In a still world a run goes from height to height as `passed` says, whatever
  fails and passes in between: a round that does not get ahead leaves its height pending.
  So any two runs that arrive at the same height have the same to show there.

  Main statements:
    * `Arrives.leads` — what a run has when it arrives;
    * `transient_failures_leave_no_trace` — two runs have the same.
-/

import StakeRelay.Checkpoint.Volatile
import StakeRelay.Proofs.Follower.Session
import StakeRelay.Proofs.Follower.StillWorld

namespace StakeRelay

open Dialogue

/-! ## §1. Arriving at a height -/

/-- The follower goes through whole rounds until the height is current for the first
    time. -/
inductive Arrives (height : UInt64) : Follower → List Exchange → Follower → Prop
  | here {f : Follower} (there : f.current = height) : Arrives height f [] f
  | round {f g : Follower} {turn : Turn} {t u : List Exchange}
      (before : f.current ≠ height) (path : Path f.turn t (.done turn))
      (goesOn : turn.outcome = none) (rest : Arrives height turn.follower u g) :
      Arrives height f (t ++ u) g

/-- Whole rounds are the front of a run: `turns n` comes to the same follower, with no outcome. -/
theorem Arrives.turns {height : UInt64} {f g : Follower} {t : List Exchange}
    (arrives : Arrives height f t g) :
    ∃ n r, Path (Follower.turns n f) t (.done r) ∧ r.follower = g ∧ r.outcome = none := by
  induction arrives with
  | @here f there => exact ⟨0, ⟨f, none, []⟩, .here _, rfl, rfl⟩
  | @round f g turn t u before path goesOn rest ih =>
    obtain ⟨n, r, later, arrived, open_⟩ := ih
    refine ⟨n + 1, { r with committed := turn.committed.toList ++ r.committed }, ?_, arrived, open_⟩
    unfold Follower.turns
    rw [bind_eq_bind]
    refine (path.bind _).append ?_
    rw [bind_done]
    simp only [goesOn]
    exact later.bind _

/-! ## §2. What a run has when it arrives -/

namespace Track

variable {κ : Type} (k : Track κ)

/-- From what a follower has at one height to what it has when it arrives at another. -/
inductive Leads (height : UInt64) : UInt64 → Tally κ → Tally κ → Prop
  | here (t : Tally κ) : Leads height height t t
  | step {h : UInt64} {t t' : Tally κ} (before : h ≠ height)
      (rest : Leads height (h + 1) (k.passed h t) t') : Leads height h t t'

variable {k}

theorem Leads.unique {height h : UInt64} {t a b : Tally κ} (first : k.Leads height h t a)
    (second : k.Leads height h t b) : a = b := by
  -- both ways stop at the first arrival, so they have the same length
  induction first with
  | here t =>
    cases second with
    | here => rfl
    | step before => exact absurd rfl before
  | step before _ ih =>
    cases second with
    | here => exact absurd rfl before
    | step _ rest => exact ih rest

/-- A request of the loop itself leaves a height pending. -/
theorem calm_pending {h : UInt64} {t : Tally κ} (e : OpenEpoch) (r : Request)
    (quiet : ∀ c reply, Chronicle.effectOf c ⟨r, reply⟩ = none)
    (still : ∀ s reply s', k.world.answers s ⟨r, reply⟩ s' → s' = s) :
    k.steps.Calm free (fun w => k.Pending h t (tally e w)) r :=
  calm_tally (P := k.Pending h t) (fun _ _ _ step => step) e r quiet still

/-- A round leaves the height pending (`Pending`) or passes it (`passed`). -/
theorem conducts_turn_still {f : Follower} {t : Tally κ} {w : Chronicle × κ}
    (scanner : f.scanner = k.scanner) (schedule : f.schedule = k.schedule)
    (pending : k.Pending f.current t (tally f.epoch w)) :
    f.turn.Conducts k.steps free
      (Follower.Onward (fun e w => k.Pending f.current t (tally e w))
        (fun e w => tally e w = k.passed f.current t) f) w := by
  refine (Follower.conducts_turn (C := fun e w => k.Pending f.current t (tally e w))
    ?asked ?polled ?paused ?worked pending).mono fun _ _ comes => comes.onward
  case asked => exact fun e => calm_pending e _ (fun _ _ => rfl) fun _ _ _ step => step
  case polled =>
    intro e w reply w' pending step
    have calm := calm_pending (k := k) (h := f.current) (t := t) e (.source .head)
      (fun _ _ => rfl) fun _ _ _ step => step.1
    obtain ⟨-, pending⟩ := calm w reply w' pending step
    exact ⟨trivial, pending, fun _ _ _ _ => pending⟩
  case paused => exact fun e ms => calm_pending e _ (fun _ _ => rfl) fun _ _ _ step => step
  case worked =>
    intro e w pending
    rw [scanner, schedule]
    exact conducts_work_still pending

end Track

open Track in
/-- What a run has when it arrives follows from what it had before (`Leads`), whatever failed. -/
theorem Arrives.leads {κ : Type} {k : Track κ} {height : UInt64} {f g : Follower}
    {exchanges : List Exchange} (arrives : Arrives height f exchanges g) {t : Tally κ}
    {w w' : Chronicle × κ} (through : k.steps.Through w exchanges w')
    (scanner : f.scanner = k.scanner) (schedule : f.schedule = k.schedule)
    (pending : k.Pending f.current t (tally f.epoch w))
    (fresh : f.current = height → tally f.epoch w = t) :
    k.Leads height f.current t (tally g.epoch w') := by
  -- induction on the rounds; `t` is what the current height was reached with
  induction arrives generalizing t w with
  | @here f there =>
    cases through
    rw [fresh there, there]
    exact .here t
  | @round f g turn _ _ before path goesOn rest ih =>
    obtain ⟨middle, early, late⟩ := through.split
    obtain ⟨⟨-, scanner', schedule'⟩, place⟩ :=
      (conducts_turn_still scanner schedule pending).result path early goesOn
    -- a round that stays keeps `t` and is still pending, one that moves has passed the height
    rcases place with ⟨stays, held⟩ | ⟨moves, held⟩
    · have later := ih (t := t) late (scanner'.trans scanner) (schedule'.trans schedule)
        (stays ▸ held) fun there => absurd (stays.symm.trans there) before
      rwa [stays] at later
    · have later := ih (t := k.passed f.current t) late (scanner'.trans scanner)
        (schedule'.trans schedule) (.inl held) fun _ => held
      rw [moves] at later
      exact .step before later

/-! ## §3. Two runs -/

/-- Failures that pass leave no trace: two runs of new followers in a still `world` that arrive
    at the same height (`Arrives`), whatever fails and passes in either of them, have the same
    accepted updates and the same writes of the checkpoint in the same order (`effects`), the
    same checkpoint, and the same open epoch with its mark. -/
theorem transient_failures_leave_no_trace {κ : Type} (world : StillWorld κ)
    {settings : FollowerSettings} {scanner : Scanner} {schedule : Schedule} {height : UInt64}
    {t u : List Exchange} {f g : Follower} {s s₁ s₂ : κ}
    (one : Arrives height (.ofSettings settings scanner schedule) t f)
    (answered : world.answers.Through s t s₁)
    (other : Arrives height (.ofSettings settings scanner schedule) u g)
    (answered' : world.answers.Through s u s₂) :
    effects t = effects u ∧ s₁ = s₂ ∧ f.epoch = g.epoch := by
  let k : Track κ := ⟨world, scanner, schedule⟩
  let w : Chronicle × κ := (.blank, s)
  have arrival : ∀ {t f s'}, Arrives height (.ofSettings settings scanner schedule) t f →
      world.answers.Through s t s' →
      k.Leads height settings.start (Track.tally .fresh w) (Track.tally f.epoch (.of t, s')) := by
    intro t f s' arrives answered
    have through : k.steps.Through w t (.of t, s') :=
      (Chronicle.through_follows fun _ _ _ _ => trivial).beside answered
    exact arrives.leads through rfl rfl (.inl rfl) fun _ => rfl
  have same := (arrival one answered).unique (arrival other answered')
  exact ⟨congrArg Tally.effects same, congrArg Tally.store same, congrArg Tally.epoch same⟩

/-- The world of the short session. -/
def shortWorld : StillWorld VolatileCheckpoint where
  head := 5
  logs _ := [Session.shortLog]
  registry := ⟨0, fun _ => .ok .zero, fun _ => .ok Session.shortAmount⟩
  store := VolatileCheckpoint.answer

/-- The `effects` of a round that is tried again are those of a round that succeeds at once. -/
theorem retried_round_leaves_no_trace :
    effects Session.retriedRound = effects Session.shortRound := by
  obtain ⟨report, path⟩ := Session.turn_short
  obtain ⟨report', path'⟩ := Session.turn_retried
  have one : Arrives 1 Session.shortStart (Session.shortRound ++ []) Session.shortEnd :=
    .round (by decide) path rfl (.here rfl)
  have other : Arrives 1 Session.shortStart
      (Session.failedRound ++ ((Session.shortScan ++ Session.shortCommit) ++ [])) Session.shortEnd :=
    .round (by decide) Session.turn_failed rfl (.round (by decide) path' rfl (.here rfl))
  rw [List.append_nil] at one other
  have answered : shortWorld.answers.Through .empty Session.shortRound Session.shortKept := by
    iterate 8 refine .step (by first
      | exact rfl | exact ⟨rfl, rfl⟩ | exact ⟨rfl, .inl rfl⟩ | exact ⟨rfl, _, rfl⟩) ?_
    exact .here _
  have answered' : shortWorld.answers.Through .empty Session.retriedRound Session.shortKept := by
    iterate 13 refine .step (by first
      | exact rfl | exact ⟨rfl, rfl⟩ | exact ⟨rfl, .inl rfl⟩ | exact ⟨rfl, _, rfl⟩
      | exact ⟨rfl, .inr ⟨_, rfl, rfl⟩⟩) ?_
    exact .here _
  exact (transient_failures_leave_no_trace shortWorld other answered' one answered).1

end StakeRelay
