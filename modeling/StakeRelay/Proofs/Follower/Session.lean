/-
  StakeRelay.Proofs.Follower.Session — one life of a follower, from its start to wherever
  it is cut off.

  A session makes a new follower and runs it. It goes on from the cursor, as the service
  does, or starts at the set height. Nothing of a follower outlives its session but what
  the checkpoint took.
-/

import StakeRelay.Checkpoint.Volatile
import StakeRelay.Proofs.Follower.Outline

namespace StakeRelay

open Dialogue

/-- One life of a follower. -/
structure Session where
  settings : FollowerSettings
  scanner : Scanner
  schedule : Schedule
  /-- Whether it goes on from the cursor, if that is further than the set height. -/
  resumes : Bool
  /-- How many rounds it has. -/
  rounds : Nat
  deriving Repr, DecidableEq

namespace Session

/-- The follower that a session makes. -/
def follower (s : Session) (start : UInt64) : Follower :=
  .ofSettings { s.settings with start := start } s.scanner s.schedule

/-- The height at which a session starts. -/
def start (s : Session) : Attempt UInt64 :=
  if s.resumes then Follower.resumeHeight s.settings.start else pure s.settings.start

/-- Everything that a session asks. -/
def dialogue (s : Session) : Dialogue (Except Failure Follower.Run) :=
  (do
    let height ← s.start
    ExceptT.lift ((s.follower height).run s.rounds) : Attempt Follower.Run).run

variable {γ : Type} {env G : Surroundings γ}

/-- The outline of a session: `J` holds of the open epoch and the height at every loop
    top, from the first on. -/
theorem conducts_dialogue {J : OpenEpoch → UInt64 → γ → Prop} {s : Session} {g : γ}
    (resumed : s.resumes = true → ∀ reply g', env g ⟨.checkpoint .readCursor, reply⟩ g' →
      G g ⟨.checkpoint .readCursor, reply⟩ g' ∧
        ∀ cursor, reply = .ok cursor → J .fresh (max cursor s.settings.start) g')
    (set : s.resumes = false → J .fresh s.settings.start g)
    (asked : ∀ e h, env.Calm G (J e h) .stopRequested)
    (polled : ∀ e h, env.Calm G (J e h) (.source .head))
    (paused : ∀ e h ms, env.Calm G (J e h) (.wait ms))
    (worked : ∀ e h g, J e h g → (Follower.work s.scanner s.schedule h e).Conducts env G
      (fun done g =>
        match done.1 with
        | .ok _ => J done.2 (h + 1) g
        | .error failure => failure.isTransient = true → J done.2 h g) g) :
    s.dialogue.Conducts env G (fun _ _ => True) g := by
  have follows : ∀ height g, J .fresh height g →
      (ExceptT.lift ((s.follower height).run s.rounds) : Attempt Follower.Run).run.Conducts env G
        (fun _ _ => True) g := by
    intro height g held
    rw [attempt_lift, conducts_bind]
    exact Follower.conducts_run
      (Follower.conducts_turns asked polled paused worked s.rounds _ rfl rfl g held)
  unfold dialogue start
  rw [conducts_attempt_bind]
  cases resumes : s.resumes with
  | true =>
    refine Follower.conducts_resumeHeight fun reply g' step => ?_
    obtain ⟨allowed, held⟩ := resumed resumes reply g' step
    refine ⟨allowed, ?_⟩
    cases reply with
    | error failure => trivial
    | ok cursor => exact follows _ g' (held cursor rfl)
  | false => exact follows _ g (set resumes)

/-- The outline of a session that goes on from the cursor: its rounds behind the height at
    which it starts. -/
theorem conducts_resumed {s : Session} {g : γ} {Q : Except Failure Follower.Run → γ → Prop}
    (resumes : s.resumes = true)
    (read : ∀ reply g', env g ⟨.checkpoint .readCursor, reply⟩ g' →
      G g ⟨.checkpoint .readCursor, reply⟩ g' ∧
        match reply with
        | .ok cursor =>
          (Follower.turns s.rounds (s.follower (max cursor s.settings.start))).Conducts env G
            (fun run g => Q (.ok run) g) g'
        | .error failure => Q (.error failure) g') :
    s.dialogue.Conducts env G Q g := by
  unfold dialogue start
  rw [conducts_attempt_bind, if_pos resumes]
  refine Follower.conducts_resumeHeight fun reply g' step => ?_
  obtain ⟨allowed, held⟩ := read reply g' step
  refine ⟨allowed, ?_⟩
  cases reply with
  | error failure => exact held
  | ok cursor =>
    simp only
    rw [attempt_lift, conducts_bind]
    exact held

end Session

/-! ## §2. A short session -/

namespace Session

/-- Looks for the events of the zero address. -/
def shortScanner : Scanner := ⟨.zero, Address.zero.toWord⟩

/-- The staker of the short session. -/
def shortStaker : Address := ⟨List.replicate 20 1, rfl⟩

/-- What the staker has locked. -/
def shortAmount : Amount := 7

/-- The deposit of it. -/
def shortLog : RawLog := DepositEvent.toLog shortScanner.topic 0 shortStaker 7 1

/-- Starts at height zero and bears one failure there. -/
def shortSettings : FollowerSettings := ⟨0, 0, 2, 0⟩

/-- Each block is an epoch. -/
def shortSchedule : Schedule := ⟨1, .full, Walk.full.stride_pos⟩

/-- One round that starts at height zero. -/
def short : Session := ⟨shortSettings, shortScanner, shortSchedule, true, 1⟩

/-- The front of a round, up to the block at height zero, which holds one deposit. -/
def shortScan : List Exchange :=
  [⟨.stopRequested, false⟩,
   ⟨.source .head, .ok (5 : UInt64)⟩,
   ⟨.source (.logs (.ofBlock shortScanner.contract shortScanner.topic 0)), .ok [shortLog]⟩]

/-- The deposit is submitted. -/
def shortFlush : Exchange :=
  ⟨.submit ⟨updateCall, Ranking.top [StakerRecord.ofAddress shortStaker shortAmount]⟩, .ok ()⟩

/-- The registry is empty, which is committed. -/
def shortCommit : List Exchange :=
  [⟨.source .registrySize, .ok (0 : UInt64)⟩,
   ⟨.checkpoint .readSnapshot, .ok ([] : List StakerRecord)⟩,
   ⟨.checkpoint (.writeSnapshot (Ranking.top [])), .ok ()⟩,
   ⟨.checkpoint (.writeCursor 1), .ok ()⟩]

/-- A round in which nothing fails. -/
def shortRound : List Exchange := shortScan ++ [shortFlush] ++ shortCommit

/-- What the short session asks and is told. -/
def shortExchanges : List Exchange := ⟨.checkpoint .readCursor, .ok (0 : UInt64)⟩ :: shortRound

/-- A round whose deposit is submitted and whose registry cannot be read. -/
def failedRound : List Exchange :=
  shortScan ++ [shortFlush, ⟨.source .registrySize, .error (.network .simulatedRegistry)⟩,
    ⟨.wait 0, ()⟩]

/-- A failed round and the next one, which has no deposit left to submit. -/
def retriedRound : List Exchange := failedRound ++ (shortScan ++ shortCommit)

/-- The follower before the round. -/
def shortStart : Follower := .ofSettings shortSettings shortScanner shortSchedule

/-- The follower between the failed round and the next one. -/
def shortRetry : Follower := { shortStart with epoch := ⟨[], some 0⟩, retriesLeft := 1 }

/-- The follower behind height zero. -/
def shortEnd : Follower := { shortStart with epoch := ⟨[], some 0⟩, current := 1 }

/-- The checkpoint in memory behind the commit. -/
def shortKept : VolatileCheckpoint :=
  ⟨some 1, Ranking.top [], [.snapshot (Ranking.top []).length, .cursor 1], false, false⟩

/-- The greatest height. -/
def lastHeight : UInt64 := 18446744073709551615

/-- A follower that starts at the greatest height. -/
def lastStart : Follower :=
  .ofSettings { shortSettings with start := lastHeight } shortScanner shortSchedule

/-- The front of a round at a confirmed height without deposits. -/
def emptyScan (head height : UInt64) : List Exchange :=
  [⟨.stopRequested, false⟩,
   ⟨.source .head, .ok head⟩,
   ⟨.source (.logs (.ofBlock shortScanner.contract shortScanner.topic height)), .ok []⟩]

/-- A round that finds nobody: no deposits, an empty registry and an empty committed top. -/
def emptyRound (head height : UInt64) : List Exchange :=
  emptyScan head height ++
    [⟨.source .registrySize, .ok (0 : UInt64)⟩,
     ⟨.checkpoint .readSnapshot, .ok ([] : List StakerRecord)⟩,
     ⟨.checkpoint (.writeSnapshot (Ranking.top [])), .ok ()⟩,
     ⟨.checkpoint (.writeCursor (Saturating.add height 1)), .ok ()⟩]

theorem path_short : ∃ d, Path short.dialogue shortExchanges d := by
  apply Exists.intro
  with_unfolding_all
    iterate 9 apply Path.step
    apply Path.here

theorem turn_short : ∃ report, Path shortStart.turn shortRound (.done ⟨shortEnd, none, report⟩) := by
  apply Exists.intro
  with_unfolding_all
    iterate 8 apply Path.step
    apply Path.here

theorem turn_failed : Path shortStart.turn failedRound (.done ⟨shortRetry, none, none⟩) := by
  with_unfolding_all
    iterate 6 apply Path.step
    apply Path.here

theorem turn_retried : ∃ report,
    Path shortRetry.turn (shortScan ++ shortCommit) (.done ⟨shortEnd, none, report⟩) := by
  apply Exists.intro
  with_unfolding_all
    iterate 7 apply Path.step
    apply Path.here

end Session

end StakeRelay
