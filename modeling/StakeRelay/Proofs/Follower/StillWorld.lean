/-
  StakeRelay.Proofs.Follower.StillWorld — what a height does when the world stands still.

  In a still world the head, the logs, the registry and the destination always answer the
  same, and the checkpoint answers by its state alone. The three calls that a follower
  tries again — for the head, for the logs and for the size of the registry — may also
  fail in a way that may pass.

  What a height leads to is then a function of what the follower has so far (`Tally`). A
  failure that passes leaves the tally as it was or takes it half the way, behind the
  flush of the deposits, and from there the height leads to the same end: the open epoch
  has its mark, so flushing a second time changes nothing.

  Main statements:
    * `flushed_flushed` — flushing a height twice is flushing it once;
    * `conducts_work_still` — the work at a height comes to its end, or passes.
-/

import StakeRelay.Proofs.Dialogue.Chronicle
import StakeRelay.Proofs.Follower.Outline
import StakeRelay.Proofs.Staker.Departure
import StakeRelay.Proofs.Staker.Registry

namespace StakeRelay

open Chronicle (AsksEntry)
open Dialogue

/-! ## §1. Still worlds -/

/-- A world that stands still, except for the checkpoint. -/
structure StillWorld (κ : Type) where
  head : UInt64
  logs : LogFilter → List RawLog
  registry : Registry
  /-- The checkpoint's answer, and the checkpoint after it. -/
  store : (q : CheckpointQuery) → κ → Except Failure q.Reply × κ

/-- A failure that may pass. -/
def Passes {α : Type} (reply : Except Failure α) : Prop :=
  ∃ failure, reply = .error failure ∧ failure.isTransient = true

variable {κ : Type}

/-- What the partners may answer. No submission is refused and no call of the checkpoint
    fails. -/
def StillWorld.answers (w : StillWorld κ) : Surroundings κ
  | s, ⟨.source .head, reply⟩, s' => s' = s ∧ (reply = .ok w.head ∨ Passes reply)
  | s, ⟨.source (.logs filter), reply⟩, s' => s' = s ∧ (reply = .ok (w.logs filter) ∨ Passes reply)
  | s, ⟨.source .registrySize, reply⟩, s' =>
    s' = s ∧ (reply = .ok w.registry.size ∨ Passes reply)
  | s, ⟨.source (.stakerAt index), reply⟩, s' => s' = s ∧ reply = w.registry.stakerAt index
  | s, ⟨.source (.stakerInfo staker), reply⟩, s' => s' = s ∧ reply = w.registry.stakerInfo staker
  | s, ⟨.submit _, reply⟩, s' => s' = s ∧ reply = .ok ()
  | s, ⟨.checkpoint q, reply⟩, s' => w.store q s = (reply, s') ∧ ∃ a, reply = .ok a
  | s, ⟨.stopRequested, _⟩, s' => s' = s
  | s, ⟨.wait _, _⟩, s' => s' = s

/-! ## §2. What a height leads to -/

/-- What a follower has so far: the open epoch, the effects and the checkpoint. -/
@[ext] structure Tally (κ : Type) where
  epoch : OpenEpoch
  effects : List Effect
  store : κ

/-- A still world with a way to walk through it. -/
structure Track (κ : Type) where
  world : StillWorld κ
  scanner : Scanner
  schedule : Schedule

namespace Track

variable (k : Track κ)

/-- The records of the deposits at a height. -/
def deposits (h : UInt64) : List StakerRecord :=
  match Scanner.depositsOf h (k.world.logs (.ofBlock k.scanner.contract k.scanner.topic h)) with
  | .ok records => records
  | .error _ => []

/-- The top of the registry. -/
def top : List StakerRecord :=
  Ranking.top (k.world.registry.recordsFrom k.schedule.walk 0)

/-- The height is taken in. -/
def gathered (h : UInt64) (t : Tally κ) : Tally κ :=
  { t with epoch := t.epoch.absorb h (k.deposits h) }

/-- The deposits up to the height are submitted. -/
def flushed (h : UInt64) (t : Tally κ) : Tally κ :=
  let t := k.gathered h t
  if t.epoch.records = [] then t
  else
    { t with
      epoch := t.epoch.emptied
      effects := t.effects ++ [.accepted .deposits h (Ranking.top t.epoch.records)] }

/-- The top that was committed last, and the checkpoint after the question for it. -/
def committed (t : Tally κ) : List StakerRecord × κ :=
  match k.world.store .readSnapshot t.store with
  | (.ok last, s) => (last, s)
  | (.error _, s) => ([], s)

/-- The registry is told and committed. -/
def settled (h : UInt64) (t : Tally κ) : Tally κ :=
  let (last, s) := k.committed t
  let s := (k.world.store (.writeSnapshot k.top) s).2
  { t with
    effects := t.effects ++
      (Departure.told h last k.top).map (fun u => .accepted .registry u.1 u.2) ++
      [.keptSnapshot k.top, .keptCursor (Saturating.add h 1)]
    store := (k.world.store (.writeCursor (Saturating.add h 1)) s).2 }

/-- What a height leads to. -/
def passed (h : UInt64) (t : Tally κ) : Tally κ :=
  if k.schedule.isBoundary h then k.settled h (k.flushed h t) else k.gathered h t

variable {k} {h : UInt64}

/-- The deposits of a height are out of the way. -/
theorem flushed_cleared (t : Tally κ) :
    (k.flushed h t).epoch.records = [] ∧ (k.flushed h t).epoch.accepts h = false := by
  have passed := OpenEpoch.not_accepts_absorb t.epoch h (k.deposits h)
  unfold flushed gathered
  simp only
  split
  · rename_i none
    exact ⟨none, passed⟩
  · exact ⟨rfl, passed⟩

/-- Flushing a height twice is flushing it once: `flushed` is idempotent. -/
theorem flushed_flushed (t : Tally κ) : k.flushed h (k.flushed h t) = k.flushed h t := by
  obtain ⟨none, passed⟩ := flushed_cleared (k := k) (h := h) t
  -- the mark stands at this height, so taking it in again changes nothing
  have same : k.gathered h (k.flushed h t) = k.flushed h t := by
    unfold gathered
    rw [OpenEpoch.absorb_of_not_accepts _ passed]
  rw [flushed, same]
  exact if_pos none

/-- What stands at the top of the loop while a height is tried: what was there when the
    height was reached, or that with the deposits flushed. -/
def Pending (k : Track κ) (h : UInt64) (start now : Tally κ) : Prop :=
  now = start ∨ (k.schedule.isBoundary h = true ∧ now = k.flushed h start)

theorem Pending.flushed {start now : Tally κ} (pending : k.Pending h start now) :
    k.flushed h now = k.flushed h start := by
  rcases pending with rfl | ⟨-, rfl⟩
  · rfl
  · exact flushed_flushed start

theorem Pending.inside {start now : Tally κ} (pending : k.Pending h start now)
    (inside : ¬ k.schedule.isBoundary h = true) : now = start := by
  rcases pending with rfl | ⟨boundary, -⟩
  · rfl
  · exact absurd boundary inside

/-! ## §3. The work at a height -/

/-- The steps of the still world, with the account beside it. -/
abbrev steps (k : Track κ) : Surroundings (Chronicle × κ) :=
  (Chronicle.follows fun _ _ => True).beside k.world.answers

/-- Every step is allowed. -/
abbrev free : Surroundings (Chronicle × κ) := fun _ _ _ => True

/-- What a follower with this open epoch has. -/
def tally (e : OpenEpoch) (w : Chronicle × κ) : Tally κ := ⟨e, w.1.effects, w.2⟩

/-- A request without an effect, to a partner that stands still. -/
theorem tally_quiet {e : OpenEpoch} {w w' : Chronicle × κ} {x : Exchange}
    (step : k.steps w x w') (quiet : w.1.effectOf x = none) (still : w'.2 = w.2) :
    tally e w' = tally e w := by
  obtain ⟨⟨-, account⟩, -⟩ := step
  unfold tally
  rw [still, account, Chronicle.effects_after, quiet]
  rw [show (none : Option Effect).toList = [] from rfl, List.append_nil]

/-- A request of the loop itself changes nothing of the `tally`. -/
theorem calm_tally {env : Surroundings (Chronicle × κ)} {P : Tally κ → Prop}
    (sub : ∀ w x w', env w x w' → k.steps w x w') (e : OpenEpoch) (r : Request)
    (quiet : ∀ c reply, Chronicle.effectOf c ⟨r, reply⟩ = none)
    (still : ∀ s reply s', k.world.answers s ⟨r, reply⟩ s' → s' = s) :
    env.Calm free (fun w => P (tally e w)) r := by
  intro w reply w' held step
  have same : tally e w' = tally e w :=
    tally_quiet (sub _ _ _ step) (quiet _ _) (still _ _ _ (sub _ _ _ step).2)
  refine ⟨trivial, ?_⟩
  show P (tally e w')
  rw [same]
  exact held

theorem conducts_readEntry_still {P : Chronicle × κ → Prop} {w : Chronicle × κ}
    (calm : ∀ r, AsksEntry r → k.steps.Calm free P r) (index : UInt64) (start : P w) :
    (Walk.readEntry index).run.Conducts k.steps free
      (fun outcome w => outcome.toOption = k.world.registry.record? index ∧ P w) w := by
  unfold Registry.record?
  rw [Walk.readEntry, conducts_attempt_bind]
  intro reply w' step
  obtain ⟨-, held⟩ := calm _ (.stakerAt index) w reply w' start step
  obtain ⟨-, -, known⟩ := step
  refine ⟨trivial, ?_⟩
  rw [← known]
  cases reply with
  | error failure => exact ⟨rfl, held⟩
  | ok staker =>
    show ((Attempt.source (.stakerInfo staker)) >>= _ : Attempt _).run.Conducts k.steps free _ w'
    rw [conducts_attempt_bind]
    intro reply w'' step
    obtain ⟨-, held⟩ := calm _ (.stakerInfo staker) w' reply w'' held step
    obtain ⟨-, -, known⟩ := step
    refine ⟨trivial, ?_⟩
    simp only [← known]
    cases reply with
    | error failure => exact ⟨rfl, held⟩
    | ok balance => exact ⟨rfl, held⟩

/-- The walk through the registry finds its records (`recordsFrom`). -/
theorem conducts_visit_still {P : Chronicle × κ → Prop} {w : Chronicle × κ} (walk : Walk)
    (index : UInt64) (calm : ∀ r, AsksEntry r → k.steps.Calm free P r) (start : P w) :
    (walk.visit k.world.registry.size index).Conducts k.steps free
      (fun records w => records = k.world.registry.recordsFrom walk index ∧ P w) w := by
  induction index using Walk.visit.induct walk k.world.registry.size generalizing w with
  | case1 index below ih =>
    rw [Walk.visit, dif_pos below, Registry.recordsFrom, Walk.indices, dif_pos below,
      List.filterMap_cons]
    simp only [bind_eq_bind, conducts_bind]
    refine (conducts_readEntry_still calm index start).mono ?_
    intro outcome w given
    obtain ⟨known, held⟩ := given
    refine (ih held).mono ?_
    intro rest w given
    obtain ⟨found, held⟩ := given
    rw [← known]
    cases outcome with
    | error failure => exact ⟨found, held⟩
    | ok record => exact ⟨congrArg (record :: ·) found, held⟩
  | case2 index above =>
    rw [Walk.visit, dif_neg above, Registry.recordsFrom, Walk.indices, dif_neg above]
    exact ⟨rfl, start⟩

/-- The visit of a boundary whose deposits are flushed, where `t` is what the follower
    has. -/
structure Flushed (h : UInt64) (e : OpenEpoch) (t : Tally κ) (w : Chronicle × κ) : Prop where
  tally : tally e w = t
  place : w.1.height = h
  purpose : w.1.purpose = .registry

/-- The visit of a boundary where the store is `s` and the registry has had the effects
    `es`. -/
structure Committing (t : Tally κ) (s : κ) (es : List Effect) (w : Chronicle × κ) : Prop where
  store : w.2 = s
  effects : w.1.effects = t.effects ++ es

theorem Flushed.quiet {e : OpenEpoch} {t : Tally κ} {w w' : Chronicle × κ} {x : Exchange}
    (f : Flushed h e t w) (step : k.steps w x w') (quiet : w.1.effectOf x = none)
    (still : w'.2 = w.2) (goesOn : x.request.opensVisit = false)
    (size : x.request.asksSize = false) : Flushed h e t w' := by
  refine ⟨(tally_quiet step quiet still).trans f.tally, ?_, ?_⟩
  all_goals obtain ⟨⟨-, account⟩, -⟩ := step
  · rw [account, (Chronicle.visit_after w.1 goesOn).1, f.place]
  · rw [account, Chronicle.purpose_after w.1 goesOn size, f.purpose]

theorem calm_flushed (e : OpenEpoch) (t : Tally κ) (r : Request) (asks : AsksEntry r) :
    k.steps.Calm free (Flushed h e t) r := by
  intro w reply w' flushed step
  have silent := asks.silent
  have still : w'.2 = w.2 := by
    cases asks with
    | stakerAt index => exact step.2.1
    | stakerInfo staker => exact step.2.1
  exact ⟨trivial, flushed.quiet step (silent.quiet w.1 reply) still silent.goesOn silent.noSize⟩

/-- The updates that tell of a new top, as effects. -/
def toldEffects (h : UInt64) (last top : List StakerRecord) : List Effect :=
  (Departure.told h last top).map fun u => .accepted .registry u.1 u.2

/-- The registry half of a boundary, `commitRegistry`, leads to what is `settled`. -/
theorem conducts_commit_still {e : OpenEpoch} {t : Tally κ} {w : Chronicle × κ}
    (start : tally e w = t) (place : w.1.height = h) :
    (k.schedule.commitRegistry h).run.Conducts k.steps free
      (fun outcome w =>
        match outcome with
        | .ok _ => tally e w = k.settled h t
        | .error failure => failure.isTransient = true → tally e w = t) w := by
  refine Schedule.conducts_commitRegistry (R := fun top => top = k.top)
    (A := fun size w => size = k.world.registry.size ∧ Flushed h e t w) (B := Flushed h e t)
    (C := fun _ last w => last = (k.committed t).1 ∧ Committing t (k.committed t).2 [] w ∧
      w.1.height = h ∧ w.1.purpose = .registry)
    (D := fun top last w => last = (k.committed t).1 ∧
      Committing t (k.committed t).2 (toldEffects h last top) w)
    (E := fun top last w => top = k.top ∧ last = (k.committed t).1 ∧
      Committing t (k.world.store (.writeSnapshot top) (k.committed t).2).2
        (toldEffects h last top ++ [.keptSnapshot top]) w)
    ?size ?visited ?read ?skip ?submit ?saveTop ?saveCursor
  case size =>
    intro reply w' step
    -- only the question for the size may fail and pass; nothing has an effect before it
    have same : tally e w' = t := (tally_quiet step rfl step.2.1).trans start
    refine ⟨trivial, ?_⟩
    obtain ⟨⟨-, account⟩, -, known | ⟨failure, failed, -⟩⟩ := step
    · subst known
      exact ⟨rfl, same, by rw [account, ← place]; rfl, by rw [account]; rfl⟩
    · subst failed
      exact fun _ => same
  case visited =>
    intro size w given
    obtain ⟨rfl, flushed⟩ := given
    refine (conducts_visit_still _ 0 (calm_flushed e t) flushed).mono ?_
    intro records w given
    obtain ⟨rfl, flushed⟩ := given
    exact ⟨rfl, flushed⟩
  case read =>
    intro top w reply w' _ flushed step
    refine ⟨trivial, ?_⟩
    obtain ⟨⟨-, account⟩, answered, last, rfl⟩ := step
    -- what was read is what the checkpoint held when the deposits were out of the way
    have known : k.committed t = (last, w'.2) := by
      unfold committed
      rw [← flushed.tally]
      show (match k.world.store .readSnapshot w.2 with
        | (.ok last, s) => (last, s)
        | (.error _, s) => ([], s)) = _
      rw [answered]
    refine ⟨by rw [known], ⟨by rw [known], ?_⟩, ?_, ?_⟩
    · rw [account, Chronicle.effects_after, ← flushed.tally]
      rfl
    · rw [account, ← flushed.place]
      rfl
    · rw [account, ← flushed.purpose]
      rfl
  case skip =>
    intro top last w none given
    obtain ⟨known, committing, -, -⟩ := given
    refine ⟨known, committing.store, ?_⟩
    rw [committing.effects, toldEffects, Departure.told,
      if_pos (show Departure.update last top = [] from none)]
    rfl
  case submit =>
    intro top last w reply w' some given
    obtain ⟨known, committing, place, purpose⟩ := given
    intro step
    obtain ⟨⟨-, account⟩, still, accepted⟩ := step
    refine ⟨trivial, ?_⟩
    subst accepted
    refine ⟨known, still.trans committing.store, ?_⟩
    rw [account, Chronicle.effects_after, committing.effects, Chronicle.effectOf, place, purpose,
      toldEffects, Departure.told, if_neg (show Departure.update last top ≠ [] from some),
      List.append_nil]
    rfl
  case saveTop =>
    intro top last w reply w' chosen given
    obtain ⟨known, committing⟩ := given
    intro step
    obtain ⟨⟨-, account⟩, answered, _, rfl⟩ := step
    refine ⟨trivial, chosen, known, ?_, ?_⟩
    · rw [← committing.store, answered]
    · rw [account, Chronicle.effects_after, committing.effects, List.append_assoc]
      rfl
  case saveCursor =>
    intro top last w reply w' given
    obtain ⟨rfl, rfl, committing⟩ := given
    intro step
    obtain ⟨⟨-, account⟩, answered, _, rfl⟩ := step
    refine ⟨trivial, ?_⟩
    have epoch : t.epoch = e := by rw [← start]; rfl
    unfold settled
    ext1
    · exact epoch.symm
    · show w'.1.effects = _
      rw [account, Chronicle.effects_after, committing.effects]
      simp [toldEffects, Chronicle.effectOf]
    · show w'.2 = _
      rw [committing.store] at answered
      simp only [answered]

/-- The deposit half of a boundary, `flush`, leads to what is `flushed`. -/
theorem conducts_flush_still {e : OpenEpoch} {t : Tally κ} {w : Chronicle × κ}
    (start : tally e w = k.gathered h t) (place : w.1.height = h)
    (purpose : w.1.purpose = .deposits) :
    (Schedule.flush e).Conducts k.steps free
      (fun flushed w =>
        match flushed with
        | (.ok _, e) => tally e w = k.flushed h t ∧ w.1.height = h
        | (.error failure, _) => failure.isTransient = false) w := by
  have epoch : (k.gathered h t).epoch = e := by rw [← start]; rfl
  refine Schedule.conducts_flush (fun none => ?_) fun some reply w' step => ⟨trivial, ?_⟩
  · refine ⟨start.trans ?_, place⟩
    rw [flushed]
    simp only [epoch]
    exact (if_pos none).symm
  · obtain ⟨⟨-, account⟩, still, accepted⟩ := step
    subst accepted
    refine ⟨?_, by rw [account, ← place]; rfl⟩
    rw [flushed]
    simp only [epoch]
    rw [if_neg some]
    ext1
    · rfl
    · show w'.1.effects = _
      rw [account, Chronicle.effects_after, Chronicle.effectOf, place, purpose, ← start]
      rfl
    · show w'.2 = _
      rw [still, ← start]
      rfl

/-- The `work` at a height comes to its end (`passed`), or a failure passes and leaves the
    height pending. -/
theorem conducts_work_still {e : OpenEpoch} {t : Tally κ} {w : Chronicle × κ}
    (pending : k.Pending h t (tally e w)) :
    (Follower.work k.scanner k.schedule h e).Conducts k.steps free
      (fun done w =>
        match done.1 with
        | .ok _ => tally done.2 w = k.passed h t
        | .error failure => failure.isTransient = true → k.Pending h t (tally done.2 w)) w := by
  refine Follower.conducts_work fun reply w' step => ⟨trivial, ?_⟩
  have same : tally e w' = tally e w := tally_quiet step rfl step.2.1
  have pending' : k.Pending h t (tally e w') := same ▸ pending
  obtain ⟨⟨-, account⟩, -, known | ⟨failure, failed, -⟩⟩ := step
  · subst known
    simp only
    cases decoded : Scanner.decodeFrom h 0
        (k.world.logs (.ofBlock k.scanner.contract k.scanner.topic h)) with
    | error failure => exact fun _ => pending'
    | ok events =>
      have found : k.deposits h = events.map DepositEvent.toRecord := by
        unfold deposits Scanner.depositsOf
        rw [decoded]
        rfl
      have gathered : tally (e.absorb h (events.map DepositEvent.toRecord)) w' =
          k.gathered h (tally e w') := by
        rw [← found]
        rfl
      by_cases boundary : k.schedule.isBoundary h = true
      · simp only [if_pos boundary]
        refine Schedule.conducts_settle ((conducts_flush_still gathered (by rw [account]; rfl)
          (by rw [account]; rfl)).mono ?_)
        intro done
        obtain ⟨outcome, e'⟩ := done
        intro w'' held
        cases outcome with
        | error failure => exact Failure.fatal_elim held
        | ok n =>
          obtain ⟨flushed, place⟩ := held
          -- wherever the height was left pending, its flush comes to the same
          rw [pending'.flushed] at flushed
          refine (conducts_commit_still flushed place).mono ?_
          intro outcome last held
          cases outcome with
          -- the registry is tried again behind the flush
          | error failure => exact fun passing => .inr ⟨boundary, held passing⟩
          | ok counts => exact held.trans (if_pos boundary).symm
      · simp only [if_neg boundary]
        rw [gathered, pending'.inside boundary, passed, if_neg boundary]
  · subst failed
    exact fun _ => pending'

end Track

end StakeRelay
