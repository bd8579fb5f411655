/-
  StakeRelay.Proofs.Deposit.Survival — no deposit is lost across crashes and restarts.

  A follower may be stopped, fail or crash between any two calls, and a new one goes on
  from the cursor. The open epoch is lost with the follower, the cursor is not: it stands
  behind the last boundary that was committed, so the new follower reads again just the
  blocks whose deposits were not delivered.

  The invariant of the loop ties four things together. With `rest` the height at which a
  follower would go on,
    * every epoch that ends below `rest` was delivered;
    * no boundary lies between `rest` and the current height;
    * the open epoch holds all deposits from `rest` up to the current height, or it was
      flushed at the current height and then the registry could not be committed.

  Main statement: `deposits_survive_restarts`.
-/

import StakeRelay.Proofs.Checkpoint.Keeping
import StakeRelay.Proofs.Deposit.Epochs
import StakeRelay.Proofs.Follower.Session
import StakeRelay.Proofs.Number.Words

namespace StakeRelay

open Dialogue

namespace Ground

/-! ## §1. Delivered epochs -/

/-- The deposits of the epoch that ends at the boundary were accepted, if there are any. -/
def Delivered (g : Ground) (es : List Effect) (boundary : UInt64) : Prop :=
  ∃ records, g.epochDeposits boundary.toNat = .ok records ∧
    (records ≠ [] → .accepted .deposits boundary (Ranking.top records) ∈ es)

/-- Every accepted deposit update carries the deposits of its epoch. -/
def Exact (g : Ground) (es : List Effect) : Prop :=
  ∀ b payload, .accepted .deposits b payload ∈ es →
    g.length ∣ b.toNat ∧ g.first ≤ b.toNat ∧
      ∃ records, g.epochDeposits b.toNat = .ok records ∧ payload = Ranking.top records

/-- The walk can be taken up at a height: every epoch that ends below was delivered. -/
structure Behind (g : Ground) (es : List Effect) (rest : Nat) : Prop where
  resting : g.Resting rest
  delivered : ∀ b : UInt64, g.length ∣ b.toNat → g.first ≤ b.toNat → b.toNat < rest →
    g.Delivered es b

variable {g : Ground} {es : List Effect} {rest : Nat} {h : UInt64}

theorem Delivered.append {b : UInt64} (delivered : g.Delivered es b) (fs : List Effect) :
    g.Delivered (es ++ fs) b := by
  obtain ⟨records, found, told⟩ := delivered
  exact ⟨records, found, fun some => List.mem_append_left _ (told some)⟩

theorem Behind.append (behind : g.Behind es rest) (fs : List Effect) :
    g.Behind (es ++ fs) rest :=
  ⟨behind.resting, fun b ends first below => (behind.delivered b ends first below).append fs⟩

/-- Effects that are no deposit updates keep the updates `Exact`. -/
theorem Exact.append (exact : g.Exact es) {fs : List Effect}
    (other : ∀ b payload, .accepted .deposits b payload ∉ fs) : g.Exact (es ++ fs) := by
  intro b payload member
  rcases List.mem_append.mp member with old | new
  · exact exact b payload old
  · exact absurd new (other b payload)

/-- A deposit update that carries its epoch, `Ranking.top records`, keeps the updates `Exact`. -/
theorem Exact.deliver {records : List StakerRecord} (exact : g.Exact es)
    (ends : g.length ∣ h.toNat) (first : g.first ≤ h.toNat)
    (found : g.epochDeposits h.toNat = .ok records) :
    g.Exact (es ++ [.accepted .deposits h (Ranking.top records)]) := by
  intro b payload member
  rcases List.mem_append.mp member with old | new
  · exact exact b payload old
  · obtain ⟨-, rfl, rfl⟩ : True ∧ b = h ∧ payload = Ranking.top records := by
      simpa using List.mem_singleton.mp new
    exact ⟨ends, first, records, found, rfl⟩

/-! ## §2. The invariant of the loop -/

/-- Where a follower with the given set height goes on when the checkpoint holds `held`. -/
def GoesOn (start : UInt64) (held : Except Failure UInt64) (rest : Nat) : Prop :=
  ∃ cursor, held = .ok cursor ∧ rest = (max cursor start).toNat

/-- What a crash leaves behind: the effects so far and the cursor. -/
structure Safe (g : Ground) (start : UInt64) (es : List Effect)
    (held : Except Failure UInt64) : Prop where
  exact : g.Exact es
  behind : ∃ rest, GoesOn start held rest ∧ g.Behind es rest

/-- What holds while the follower is at a height, whatever is in the open epoch. -/
structure Underway (g : Ground) (start : UInt64) (rest : Nat) (h : UInt64)
    (es : List Effect) (held : Except Failure UInt64) : Prop where
  exact : g.Exact es
  goesOn : GoesOn start held rest
  behind : g.Behind es rest
  reached : rest ≤ h.toNat
  between : ∀ b, rest ≤ b → b < h.toNat → ¬ g.length ∣ b

/-- The open epoch holds all deposits from `rest` up to the height. -/
structure Waiting (g : Ground) (rest : Nat) (h : UInt64) (e : OpenEpoch) : Prop where
  passed : ∀ m, e.mark = some m → m < h
  records : g.depositsFrom rest (h.toNat - rest) = .ok e.records

/-- The open epoch was flushed at the height, which is a boundary. -/
structure Flushed (g : Ground) (h : UInt64) (es : List Effect) (e : OpenEpoch) : Prop where
  mark : e.mark = some h
  empty : e.records = []
  ends : g.length ∣ h.toNat
  delivered : g.Delivered es h

/-- The invariant of the loop. -/
def AtTop (g : Ground) (start : UInt64) (e : OpenEpoch) (h : UInt64) (es : List Effect)
    (held : Except Failure UInt64) : Prop :=
  ∃ rest, g.Underway start rest h es held ∧ (g.Waiting rest h e ∨ g.Flushed h es e)

variable {start : UInt64} {held : Except Failure UInt64} {e : OpenEpoch}

theorem Underway.safe (u : g.Underway start rest h es held) : g.Safe start es held :=
  ⟨u.exact, rest, u.goesOn, u.behind⟩

theorem AtTop.safe (top : g.AtTop start e h es held) : g.Safe start es held := by
  obtain ⟨rest, underway, -⟩ := top
  exact underway.safe

theorem Underway.first_le (u : g.Underway start rest h es held) : g.first ≤ h.toNat :=
  Nat.le_trans u.behind.resting.first_le u.reached

theorem Underway.append (u : g.Underway start rest h es held) {fs : List Effect}
    (other : ∀ b payload, .accepted .deposits b payload ∉ fs) :
    g.Underway start rest h (es ++ fs) held :=
  ⟨u.exact.append other, u.goesOn, u.behind.append _, u.reached, u.between⟩

theorem Flushed.append (f : g.Flushed h es e) (fs : List Effect) : g.Flushed h (es ++ fs) e :=
  ⟨f.mark, f.empty, f.ends, f.delivered.append fs⟩

theorem Underway.epochStart (u : g.Underway start rest h es held) (ends : g.length ∣ h.toNat) :
    g.epochStart h.toNat = rest :=
  epochStart_eq u.behind.resting u.reached ends u.between

theorem Underway.epochDeposits (u : g.Underway start rest h es held)
    (ends : g.length ∣ h.toNat) :
    g.epochDeposits h.toNat = g.depositsFrom rest (h.toNat + 1 - rest) := by
  rw [Ground.epochDeposits, u.epochStart ends]

/-- A new follower starts with the invariant `AtTop`, at `max cursor start`. -/
theorem Safe.atTop {cursor : UInt64} (safe : g.Safe start es held) (read : held = .ok cursor) :
    g.AtTop start .fresh (max cursor start) es held := by
  obtain ⟨exact, rest, ⟨cursor', held', rfl⟩, behind⟩ := safe
  obtain rfl : cursor' = cursor := by
    rw [held'] at read
    injection read
  -- the cursor that is read is the one that the invariant speaks of, so the walk goes on
  -- just behind the last epoch that was delivered
  refine ⟨_, ⟨exact, ⟨cursor', held', rfl⟩, behind, Nat.le_refl _, ?_⟩, .inl ⟨nofun, ?_⟩⟩
  · intro b above below
    omega
  · rw [Nat.sub_self]
    rfl

/-! ## §3. What a visit of a height does to the invariant -/

/-- The open epoch with the deposits of the current height taken in. -/
structure Gathered (g : Ground) (rest : Nat) (h : UInt64) (es : List Effect)
    (e : OpenEpoch) : Prop where
  mark : e.mark = some h
  records : g.depositsFrom rest (h.toNat + 1 - rest) = .ok e.records ∨ g.Flushed h es e

/-- Taking in a height (`absorb`) completes the open epoch up to that height. A second time it
    changes nothing. -/
theorem Underway.absorb {records : List StakerRecord} (u : g.Underway start rest h es held)
    (state : g.Waiting rest h e ∨ g.Flushed h es e) (found : g.block h = .ok records) :
    g.Gathered rest h es (e.absorb h records) := by
  -- a flushed epoch keeps its mark at this height, so the same block is not taken in twice
  rcases state with waiting | flushed
  · have accepts : e.accepts h = true := by
      unfold OpenEpoch.accepts
      cases mark : e.mark with
      | none => rfl
      | some m => exact decide_eq_true (waiting.passed m mark)
    rw [OpenEpoch.absorb_of_accepts records accepts]
    refine ⟨rfl, .inl ?_⟩
    have reached := u.reached
    have next : h.toNat + 1 - rest = (h.toNat - rest) + 1 := by omega
    rw [next]
    exact depositsFrom_succ (by omega) waiting.records found
  · have refuses : e.accepts h = false := by
      unfold OpenEpoch.accepts
      rw [flushed.mark]
      exact decide_eq_false (UInt64.lt_irrefl h)
    rw [OpenEpoch.absorb_of_not_accepts records refuses]
    exact ⟨flushed.mark, .inr flushed⟩

/-- Behind a height that is no boundary the walk goes on at `h + 1`. -/
theorem Underway.advance (u : g.Underway start rest h es held) (gathered : g.Gathered rest h es e)
    (inside : ¬ g.length ∣ h.toNat) (small : h.toNat < 2 ^ 64 - 1) :
    g.AtTop start e (h + 1) es held := by
  have next := Words.toNat_succ small
  have reached := u.reached
  -- nothing is committed here: the walk still goes on from `rest`
  refine ⟨rest, ⟨u.exact, u.goesOn, u.behind, by omega, ?_⟩, .inl ⟨?_, ?_⟩⟩
  · intro b above below
    rcases Nat.lt_or_eq_of_le (Nat.le_of_lt_succ (next ▸ below)) with early | rfl
    · exact u.between b above early
    · exact inside
  · intro m mark
    rw [gathered.mark] at mark
    injection mark with mark
    subst mark
    exact Words.lt_succ small
  · rw [next]
    rcases gathered.records with records | flushed
    · exact records
    -- only a boundary is flushed
    · exact absurd flushed.ends inside

/-- With nothing to flush the epoch counts as delivered (`Flushed`). -/
theorem Underway.flush_none (u : g.Underway start rest h es held)
    (gathered : g.Gathered rest h es e) (ends : g.length ∣ h.toNat) (none : e.records = []) :
    g.Flushed h es e := by
  rcases gathered.records with records | flushed
  · refine ⟨gathered.mark, none, ends, [], ?_, fun some => absurd rfl some⟩
    rw [u.epochDeposits ends, records, none]
  · exact flushed

/-- What is flushed are the deposits of the whole epoch, `Ranking.top e.records`. -/
theorem Underway.flush_some (u : g.Underway start rest h es held)
    (gathered : g.Gathered rest h es e) (ends : g.length ∣ h.toNat) (some : e.records ≠ []) :
    g.Underway start rest h (es ++ [.accepted .deposits h (Ranking.top e.records)]) held ∧
      g.Flushed h (es ++ [.accepted .deposits h (Ranking.top e.records)]) e.emptied := by
  have found : g.epochDeposits h.toNat = .ok e.records := by
    rw [u.epochDeposits ends]
    rcases gathered.records with records | flushed
    · exact records
    · exact absurd flushed.empty some
  refine ⟨⟨u.exact.deliver ends u.first_le found, u.goesOn, u.behind.append _, u.reached,
    u.between⟩, gathered.mark, rfl, ends, e.records, found, fun _ => ?_⟩
  exact List.mem_append_right _ (List.mem_singleton_self _)

/-- A committed boundary becomes the height at which a follower goes on: the cursor is `h + 1`. -/
theorem Underway.commit (u : g.Underway start rest h es held) (flushed : g.Flushed h es e)
    (le : start.toNat ≤ g.first) (small : h.toNat < 2 ^ 64 - 1) :
    g.AtTop start e (h + 1) es (.ok (Saturating.add h 1)) := by
  have next := Words.toNat_succ small
  have first := u.first_le
  have reached := u.reached
  refine ⟨h.toNat + 1, ⟨u.exact, ⟨_, rfl, ?_⟩, ⟨.inr ⟨_, flushed.ends, first, rfl⟩, ?_⟩,
    by omega, ?_⟩, .inl ⟨?_, ?_⟩⟩
  · rw [Words.add_one_eq small, Words.toNat_max]
    omega
  · intro b bEnds bFirst below
    -- an epoch ends below `rest`, or here; between the two there is no boundary
    by_cases early : b.toNat < rest
    · exact u.behind.delivered b bEnds bFirst early
    · by_cases here : b = h
      · exact here ▸ flushed.delivered
      · have : b.toNat ≠ h.toNat := fun same => here (UInt64.toNat_inj.mp same)
        exact absurd bEnds (u.between b.toNat (by omega) (by omega))
  · intro b above below
    omega
  · intro m mark
    rw [flushed.mark] at mark
    injection mark with mark
    subst mark
    exact Words.lt_succ small
  · rw [next, Nat.sub_self, flushed.empty]
    rfl

end Ground

/-! ## §4. A visit of a height, call by call -/

/-- What a source chain with fixed logs may answer while heights stay below the greatest
    word. -/
def SteadyLogs (found : LogFilter → List RawLog) : Exchange → Prop
  | ⟨.source (.logs filter), reply⟩ =>
    filter.last.toNat < 2 ^ 64 - 1 ∧ ∀ logs, reply = .ok logs → logs = found filter
  | _ => True

section Visit

variable {σ : Type} (k : Keeping σ) (g : Ground) (start : UInt64)
  (found : LogFilter → List RawLog)

/-- The chain's answers, the checkpoint and the account. -/
abbrev SurvivalStep : Surroundings (Chronicle × σ) :=
  k.around fun _ x => SteadyLogs found x

/-- What every call leaves behind. -/
abbrev SurvivalSafe : Surroundings (Chronicle × σ) :=
  fun _ _ w => g.Safe start w.1.effects (k.cursor w.2)

/-- The invariant of the loop in a state of the surroundings. -/
def SurvivalTop (e : OpenEpoch) (h : UInt64) (w : Chronicle × σ) : Prop :=
  g.AtTop start e h w.1.effects (k.cursor w.2)

variable {k g start found}

/-- A request without an effect (`Chronicle.effectOf`) keeps the invariant. -/
theorem calm_survivalTop (e : OpenEpoch) (h : UInt64) (r : Request)
    (quiet : ∀ c reply, Chronicle.effectOf c ⟨r, reply⟩ = none) :
    (SurvivalStep k found).Calm (SurvivalSafe k g start) (SurvivalTop k g start e h) r := by
  intro w reply w' top step
  obtain ⟨same, held, -⟩ := k.around_quiet step (quiet _ _)
  have top' : SurvivalTop k g start e h w' := by
    unfold SurvivalTop
    rw [same, held]
    exact top
  exact ⟨top'.safe, top'⟩

/-- What holds between the flush and the commit of a boundary. -/
structure Settling (k : Keeping σ) (g : Ground) (start : UInt64) (rest : Nat) (h : UInt64)
    (e : OpenEpoch) (w : Chronicle × σ) : Prop where
  underway : g.Underway start rest h w.1.effects (k.cursor w.2)
  flushed : g.Flushed h w.1.effects e

theorem Settling.top {rest : Nat} {h : UInt64} {e : OpenEpoch} {w : Chronicle × σ}
    (s : Settling k g start rest h e w) : SurvivalTop k g start e h w :=
  ⟨rest, s.underway, .inr s.flushed⟩

/-- A call that is neither an accepted deposit update nor a commit of the cursor keeps
    `Settling`. -/
theorem Settling.keep {rest : Nat} {h : UInt64} {e : OpenEpoch} {w w' : Chronicle × σ}
    {x : Exchange} (s : Settling k g start rest h e w) (step : SurvivalStep k found w x w')
    (other : ∀ b payload, w.1.effectOf x ≠ some (.accepted .deposits b payload))
    (held : x.takenCursor? = none) : Settling k g start rest h e w' := by
  obtain ⟨⟨-, account⟩, goes⟩ := step
  have cursor := k.cursor_goes goes held
  constructor
  · rw [account, Chronicle.effects_after, cursor]
    refine s.underway.append fun b payload member => other b payload ?_
    exact Option.mem_toList.mp member
  · rw [account, Chronicle.effects_after]
    exact s.flushed.append _

/-- The commit of the cursor takes the walk to the next height, `SurvivalTop` at `h + 1`. -/
theorem Settling.commit {rest : Nat} {h : UInt64} {e : OpenEpoch} {w w' : Chronicle × σ}
    (s : Settling k g start rest h e w) (le : start.toNat ≤ g.first)
    (small : h.toNat < 2 ^ 64 - 1)
    (step : SurvivalStep k found w
      ⟨.checkpoint (.writeCursor (Saturating.add h 1)), .ok ()⟩ w') :
    SurvivalTop k g start e (h + 1) w' := by
  -- an accepted cursor is what the checkpoint holds from then on
  obtain ⟨⟨-, account⟩, goes⟩ := step
  unfold SurvivalTop
  rw [account, Chronicle.effects_after, k.cursor_of_write goes]
  exact (s.underway.append (by simp [Chronicle.effectOf])).commit (s.flushed.append _) le small

/-- The registry half of a boundary, `commitRegistry`, once the deposits are out of the way. -/
theorem conducts_commit_settled {schedule : Schedule} {rest : Nat} {h : UInt64}
    {e : OpenEpoch} {w : Chronicle × σ} (le : start.toNat ≤ g.first)
    (small : h.toNat < 2 ^ 64 - 1) (s : Settling k g start rest h e w) :
    (schedule.commitRegistry h).run.Conducts (SurvivalStep k found) (SurvivalSafe k g start)
      (fun outcome w =>
        match outcome with
        | .ok _ => SurvivalTop k g start e (h + 1) w
        | .error _ => SurvivalTop k g start e h w) w := by
  let P : Chronicle × σ → Prop := fun w => Settling k g start rest h e w ∧ w.1.purpose = .registry
  -- no call of this half is an accepted deposit update, so the flushed epoch stays as it is
  have ask : ∀ r, Chronicle.Silent r → (SurvivalStep k found).Calm (SurvivalSafe k g start) P r := by
    intro r silent w reply w' ⟨settling, purpose⟩ step
    have quiet := silent.quiet w.1 reply
    have settling' : Settling k g start rest h e w' :=
      settling.keep step (by simp [quiet]) (Exchange.taken_of_quiet quiet).1
    refine ⟨settling'.top.safe, settling', ?_⟩
    obtain ⟨⟨-, account⟩, -⟩ := step
    rw [account, silent.purpose_after, purpose]
  refine Schedule.conducts_commitRegistry
    (R := Walk.Ranked) (A := fun _ => P) (B := P) (C := fun _ _ => P)
    (D := fun _ _ => Settling k g start rest h e) (E := fun _ _ => Settling k g start rest h e)
    ?size ?visited ?read ?skip ?submit ?saveTop ?saveCursor
  case size =>
    intro reply w' step
    have settling := s.keep step (fun _ _ effect => by cases effect) rfl
    refine ⟨settling.top.safe, ?_⟩
    cases reply with
    | error failure => exact settling.top
    | ok size =>
      obtain ⟨⟨-, account⟩, -⟩ := step
      exact ⟨settling, by rw [account]; rfl⟩
  case visited =>
    intro size w held
    exact Walk.conducts_ranked _ size (fun r asks => ask r asks.silent) held
  case read =>
    intro top w reply w' _ held step
    obtain ⟨allowed, held⟩ :=
      ask _ Chronicle.silent_readSnapshot w reply w' held step
    refine ⟨allowed, ?_⟩
    cases reply with
    | error failure => exact held.1.top
    | ok last => exact held
  case skip => exact fun top last w _ held => held.1
  case submit =>
    intro top last w reply w' _ given
    obtain ⟨settling, purpose⟩ := given
    intro step
    have settling' : Settling k g start rest h e w' := by
      refine settling.keep step (fun b payload effect => ?_) rfl
      cases reply with
      -- the only update of this half tells of the registry
      | error failure => cases effect
      | ok _ =>
        rw [Chronicle.effectOf, purpose] at effect
        cases effect
    refine ⟨settling'.top.safe, ?_⟩
    cases reply with
    | error failure => exact settling'.top
    | ok _ => exact settling'
  case saveTop =>
    intro top last w reply w' _ settling step
    have settling' : Settling k g start rest h e w' := by
      refine settling.keep step ?_ rfl
      cases reply <;> intro _ _ effect <;> cases effect
    refine ⟨settling'.top.safe, ?_⟩
    cases reply with
    | error failure => exact settling'.top
    | ok _ => exact settling'
  case saveCursor =>
    intro top last w reply w' settling step
    cases reply with
    | error failure =>
      have settling' := settling.keep step (fun _ _ effect => by cases effect) rfl
      exact ⟨settling'.top.safe, settling'.top⟩
    | ok _ =>
      -- the cursor moves only here
      have top := settling.commit le small step
      exact ⟨top.safe, top⟩

/-- The chain, the scanner and the schedule are those of the ground. -/
structure Ground.Fits (g : Ground) (found : LogFilter → List RawLog) (scanner : Scanner)
    (schedule : Schedule) : Prop where
  block : ∀ height, g.block height =
    Scanner.depositsOf height (found (.ofBlock scanner.contract scanner.topic height))
  boundary : ∀ height, schedule.isBoundary height = true ↔ g.length ∣ height.toNat

/-- The deposit half of a boundary, `Schedule.flush`. A refused update ends the run. -/
theorem conducts_flush_gathered {rest : Nat} {h : UInt64} {e : OpenEpoch} {w : Chronicle × σ}
    (u : g.Underway start rest h w.1.effects (k.cursor w.2))
    (gathered : g.Gathered rest h w.1.effects e) (ends : g.length ∣ h.toNat)
    (place : w.1.height = h) (purpose : w.1.purpose = .deposits) :
    (Schedule.flush e).Conducts (SurvivalStep k found) (SurvivalSafe k g start)
      (fun flushed w =>
        match flushed with
        | (.ok _, e) => Settling k g start rest h e w
        | (.error failure, _) => failure.isTransient = false) w := by
  refine Schedule.conducts_flush (fun none => ⟨u, u.flush_none gathered ends none⟩) ?_
  intro some reply w' step
  cases reply with
  | error failure =>
    obtain ⟨same, held, -⟩ := k.around_quiet step rfl
    -- a refused update ends the run and leaves what a crash would leave
    have safe : g.Safe start w'.1.effects (k.cursor w'.2) := by
      rw [same, held]
      exact u.safe
    exact ⟨safe, Schedule.asSubmission_fatal failure⟩
  | ok _ =>
    obtain ⟨⟨-, account⟩, goes⟩ := step
    have cursor := k.cursor_goes goes rfl
    have effects : w'.1.effects =
        w.1.effects ++ [.accepted .deposits h (Ranking.top e.records)] := by
      rw [account, Chronicle.effects_after, Chronicle.effectOf, place, purpose]
      rfl
    have settling : Settling k g start rest h e.emptied w' := by
      constructor
      · rw [effects, cursor]
        exact (u.flush_some gathered ends some).1
      · rw [effects]
        exact (u.flush_some gathered ends some).2
    exact ⟨settling.top.safe, settling⟩

/-- The `work` at a height keeps the invariant, unless it ends the run. -/
theorem conducts_work_surviving {scanner : Scanner} {schedule : Schedule} {h : UInt64}
    {e : OpenEpoch} {w : Chronicle × σ} (fits : g.Fits found scanner schedule)
    (le : start.toNat ≤ g.first) (top : SurvivalTop k g start e h w) :
    (Follower.work scanner schedule h e).Conducts (SurvivalStep k found) (SurvivalSafe k g start)
      (fun done w =>
        match done.1 with
        | .ok _ => SurvivalTop k g start done.2 (h + 1) w
        | .error failure => failure.isTransient = true → SurvivalTop k g start done.2 h w) w := by
  refine Follower.conducts_work fun reply w' step => ?_
  have top' : SurvivalTop k g start e h w' :=
    (calm_survivalTop e h _ (fun _ _ => rfl) w reply w' top step).2
  refine ⟨top'.safe, ?_⟩
  obtain ⟨⟨⟨small, steady⟩, account⟩, -⟩ := step
  cases reply with
  | error failure => exact fun _ => top'
  | ok logs =>
    -- the chain answers each query in one way, so these are the logs of the ground
    have block := fits.block h
    rw [← steady logs rfl, Scanner.depositsOf] at block
    simp only
    cases decoded : Scanner.decodeFrom h 0 logs with
    | error failure => exact fun _ => top'
    | ok events =>
      rw [decoded] at block
      obtain ⟨rest, u, state⟩ := top'
      have gathered := u.absorb state block
      by_cases boundary : schedule.isBoundary h = true
      · have ends := (fits.boundary h).mp boundary
        simp only [if_pos boundary]
        refine Schedule.conducts_settle ((conducts_flush_gathered u gathered ends
          (by rw [account]; rfl) (by rw [account]; rfl)).mono ?_)
        -- a failure of the flush is fatal, one behind it leaves the flushed epoch at its height
        intro done
        obtain ⟨flushed, e'⟩ := done
        intro v held
        cases flushed with
        | error failure => exact Failure.fatal_elim held
        | ok n =>
          refine (conducts_commit_settled le small held).mono ?_
          intro outcome v held
          cases outcome with
          | error failure => exact fun _ => held
          | ok counts => exact held
      · simp only [if_neg boundary]
        exact u.advance gathered (fun ends => boundary ((fits.boundary h).mpr ends)) small

end Visit

/-! ## §5. Histories -/

section Histories

variable {σ : Type} (k : Keeping σ) (found : LogFilter → List RawLog)

variable {k found} in
/-- A session that goes on from the cursor is `SurvivalSafe` wherever it is cut off. -/
theorem Session.conducts_survival {g : Ground} {s : Session} {w : Chronicle × σ}
    (fits : g.Fits found s.scanner s.schedule)
    (resumes : s.resumes = true) (le : s.settings.start.toNat ≤ g.first)
    (safe : g.Safe s.settings.start w.1.effects (k.cursor w.2)) :
    s.dialogue.Conducts (SurvivalStep k found) (SurvivalSafe k g s.settings.start)
      (fun _ _ => True) w := by
  refine conducts_dialogue (J := SurvivalTop k g s.settings.start) ?resumed ?set ?asked ?polled
    ?paused ?worked
  case resumed =>
    intro _ reply w' step
    obtain ⟨same, held, -⟩ := k.around_quiet step rfl
    obtain ⟨-, goes⟩ := step
    have safe' : g.Safe s.settings.start w'.1.effects (k.cursor w'.2) := by
      rw [same, held]
      exact safe
    refine ⟨safe', fun cursor read => safe'.atTop ?_⟩
    subst read
    rw [held]
    exact k.cursor_of_read goes
  case set => exact fun set => absurd (resumes.symm.trans set) nofun
  case asked => exact fun e h => calm_survivalTop e h _ fun _ _ => rfl
  case polled => exact fun e h => calm_survivalTop e h _ fun _ _ => rfl
  case paused => exact fun e h ms => calm_survivalTop e h _ fun _ _ => rfl
  case worked => exact fun e h w top => conducts_work_surviving fits le top

/-- No deposit is lost: through any number of `sessions`, each cut off anywhere (`Lived`),
      * every accepted deposit update carries the ranked deposits of its epoch (`Ground.Exact`),
        and
      * when a cursor is committed, every epoch with deposits that ends below it was delivered
        before. -/
theorem deposits_survive_restarts (scanner : Scanner) (start length cursor : UInt64)
    (length_pos : 0 < length) (sessions : List Session)
    (alike : ∀ s ∈ sessions, s.resumes = true ∧ s.scanner = scanner ∧
      s.settings.start = start ∧ s.schedule.epochLength = length)
    {t : List Exchange} (lived : Lived (sessions.map Session.dialogue) t)
    {held held' : σ} (kept : k.goes.Through held t held') (opened : k.cursor held = .ok cursor)
    (steady : ∀ filter logs, ⟨.source (.logs filter), .ok logs⟩ ∈ t → logs = found filter)
    (small : ∀ filter reply, ⟨.source (.logs filter), reply⟩ ∈ t →
      filter.last.toNat < 2 ^ 64 - 1) :
    let g := Ground.ofLogs found scanner (max cursor start) length length_pos
    g.Exact (effects t) ∧
      ∀ pre post commit boundary,
        t = pre ++ ⟨.checkpoint (.writeCursor commit), .ok ()⟩ :: post →
        commit.toNat = boundary.toNat + 1 →
        ∀ b : UInt64, g.length ∣ b.toNat → g.first ≤ b.toNat → b ≤ boundary →
          g.Delivered (effects pre) b := by
  intro g
  have le : start.toNat ≤ g.first := by
    show start.toNat ≤ (max cursor start).toNat
    rw [Words.toNat_max]
    exact Nat.le_max_right _ _
  have fits : ∀ s ∈ sessions, g.Fits found s.scanner s.schedule := by
    intro s member
    obtain ⟨-, sameScanner, -, sameLength⟩ := alike s member
    refine ⟨fun height => by rw [sameScanner]; rfl, fun height => ?_⟩
    rw [Ground.isBoundary_iff, sameLength]
    rfl
  have opening : g.Safe start Chronicle.blank.effects (k.cursor held) := by
    refine ⟨nofun, g.first, ⟨cursor, opened, rfl⟩, .inl rfl, fun b _ above below => ?_⟩
    omega
  -- the invariant of a crash holds after every history that is a part of this one
  have safe : ∀ pre post, t = pre ++ post → ∀ held'', k.goes.Through held pre held'' →
      g.Safe start (effects pre) (k.cursor held'') := by
    intro pre post whole held'' before
    obtain ⟨lives, front, lived'⟩ := Lived.front (whole ▸ lived)
    have through : (SurvivalStep k found).Through (.blank, held) pre (.of pre, held'') := by
      refine k.through_around before fun early x late split => ?_
      have member : x ∈ t := by
        rw [whole, split]
        simp
      obtain ⟨request, reply⟩ := x
      cases request with
      | source q =>
        cases q with
        | logs filter =>
          refine ⟨small filter reply member, fun logs answered => ?_⟩
          exact steady filter logs (answered ▸ member)
        | _ => trivial
      | _ => trivial
    refine lived'.conduct (G := SurvivalSafe k g start)
      (I := fun w => g.Safe start w.1.effects (k.cursor w.2)) through opening ?_
      fun _ _ _ _ allowed => allowed
    intro d member w safe
    obtain ⟨s, among, rfl⟩ := List.mem_map.mp (front.subset member)
    obtain ⟨resumes, -, rfl, -⟩ := alike s among
    exact s.conducts_survival (fits s among) resumes le safe
  refine ⟨(safe t [] (by simp) held' kept).exact, ?_⟩
  -- a commit is followed by a state that is safe for the new cursor
  intro pre post commit boundary whole next b ends first reached
  obtain ⟨middle, before, after⟩ := (whole ▸ kept).split
  cases after with
  | @step _ middle' _ _ _ commits _ =>
    have through : k.goes.Through held (pre ++ [⟨.checkpoint (.writeCursor commit), .ok ()⟩])
        middle' := before.append (.step commits (.here _))
    obtain ⟨-, rest, ⟨cursor', saved, rfl⟩, behind⟩ :=
      safe (pre ++ [⟨.checkpoint (.writeCursor commit), .ok ()⟩]) post (by simp [whole]) _ through
    rw [k.cursor_of_write commits] at saved
    obtain rfl : commit = cursor' := by injection saved
    have below : b.toNat < (max commit start).toNat := by
      rw [Words.toNat_max]
      rw [UInt64.le_iff_toNat_le] at reached
      omega
    obtain ⟨records, found', told⟩ := behind.delivered b ends first below
    refine ⟨records, found', fun some => ?_⟩
    have member := told some
    -- the commit itself is no deposit update, so the update came before it
    rw [effects, Chronicle.of_concat, Chronicle.effects_after] at member
    rcases List.mem_append.mp member with early | late
    · exact early
    · cases List.mem_singleton.mp late

/-- A crash after the update and before the commit, then a session that comes through. -/
theorem deposits_survive_short_sessions :
    let t := Session.shortExchanges.take 5 ++ Session.shortExchanges
    let g := Ground.ofLogs (fun _ => [Session.shortLog]) Session.shortScanner (max 0 0) 1 (by decide)
    g.Exact (effects t) ∧ g.Delivered (effects t.dropLast) 0 := by
  intro t g
  obtain ⟨whole, path⟩ := Session.path_short
  -- the first session is cut off behind its update, the second one comes to its end
  have lived : Lived ([Session.short, Session.short].map Session.dialogue) t := by
    obtain ⟨early, before, -⟩ :=
      (show Path Session.short.dialogue (Session.shortExchanges.take 5 ++ _) _ from path).split
    simpa using Lived.life before (.life path .none)
  have kept : Keeping.volatile.goes.Through .empty t Session.shortKept := by
    iterate 14 refine .step (by first | exact .inl rfl | rfl) ?_
    exact .here _
  have result := deposits_survive_restarts Keeping.volatile (fun _ => [Session.shortLog])
    Session.shortScanner 0 1 0 (by decide) [Session.short, Session.short]
    (by simp [Session.short, Session.shortSettings, Session.shortSchedule]) lived kept rfl
    ?steady ?small
  case steady =>
    intro filter logs member
    simp [t, Session.shortExchanges, Session.shortRound, Session.shortScan, Session.shortFlush,
      Session.shortCommit] at member
    exact member.2
  case small =>
    intro filter reply member
    simp [t, Session.shortExchanges, Session.shortRound, Session.shortScan, Session.shortFlush,
      Session.shortCommit] at member
    rw [member.1]
    decide
  exact ⟨result.1, result.2 t.dropLast [] 1 0 (by rfl) rfl 0
    (Nat.dvd_zero _) (Nat.zero_le _) (by decide)⟩

end Histories

end StakeRelay
