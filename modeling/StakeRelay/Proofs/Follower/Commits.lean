/-
  StakeRelay.Proofs.Follower.Commits — every commit is backed by an accepted update.

  The checkpoint's snapshot says what the destination was told last. It is replaced only
  after the destination took the new top together with everyone who left the old one, and
  the old one is what the checkpoint holds at that very moment: it was read in the same
  visit, and nobody else writes it. The cursor follows the snapshot in the same visit.

  None of this needs an invariant between two visits. A crash may leave the snapshot of a
  boundary committed and its cursor not; the boundary is then done again against the new
  snapshot.

  All of this is for a checkpoint that loses no snapshot (`Holding`): the one in memory, and the
  one in two files if the snapshot's path leads neither to the cursor's file nor to the sibling
  of that file, and reaches what stands at its target. Other files can lose it untold.

  Main statements:
    * `commits_are_told` — for any number of sessions, each cut off anywhere;
    * `snapshot_changes_untold` — for other files it fails.
-/

import StakeRelay.Proofs.Checkpoint.Independence
import StakeRelay.Proofs.Follower.Session
import StakeRelay.Proofs.Staker.Departure

namespace StakeRelay

open Dialogue

/-! ## §1. Ranked tops -/

/-- A ranked top has a byte form from which it can be read again (`Storable`). -/
theorem Walk.Ranked.storable {top : List StakerRecord} (ranked : Walk.Ranked top) :
    SnapshotForm.Storable top := by
  refine SnapshotForm.storable_of_length (fun r member => ?_) ?_
  · rw [ranked.fresh r member]
    exact StakerRecord.consistent_ofAddress _ _
  · have few := ranked.length_le
    unfold Ranking.topSize at few
    omega

/-! ## §2. Steps that commit -/

section Steps

variable {σ : Type} (k : Holding σ) (ends : UInt64 → Prop)

/-- What a commit rests on, `ends` being the boundaries. -/
structure CommitStep (w : Chronicle × σ) (x : Exchange) (w' : Chronicle × σ) : Prop where
  /-- A new snapshot was told in this visit, as a change of the one that was held. -/
  backed : ∀ top, x.takenSnapshot? = some top → ends w.1.height ∧
    ∃ last, k.snapshot w.2 = .ok last ∧ k.snapshot w'.2 = .ok top ∧
      acceptedFor .registry w.1.visit = Departure.told w.1.height last top
  /-- The cursor follows the snapshot of the same visit. -/
  behind : ∀ cursor, x.request.newCursor? = some cursor → ends w.1.height ∧
    cursor = Saturating.add w.1.height 1 ∧ ∃ top, w.1.visit.getLast? = some (.keptSnapshot top)

/-- The steps in which anything may be answered. -/
abbrev AnyStep : Surroundings (Chronicle × σ) := k.around fun _ _ => True

variable {k ends}

/-- A step without a commit. -/
theorem CommitStep.idle {w w' : Chronicle × σ} {x : Exchange}
    (untaken : x.takenSnapshot? = none) (unwritten : x.request.newCursor? = none) :
    CommitStep k ends w x w' where
  backed := fun _ taken => by cases untaken.symm.trans taken
  behind := fun _ written => by cases unwritten.symm.trans written

theorem calm_true (r : Request) (snapshot : ∀ reply, (Exchange.mk r reply).takenSnapshot? = none)
    (other : r.newCursor? = none) :
    (AnyStep k).Calm (CommitStep k ends) (fun _ => True) r :=
  fun _ reply _ _ _ => ⟨.idle (snapshot reply) other, trivial⟩

/-- The visit of a boundary before its registry is told. -/
structure Untold (ends : UInt64 → Prop) (h : UInt64) (w : Chronicle × σ) : Prop where
  place : w.1.height = h
  ends : ends h
  untold : acceptedFor .registry w.1.visit = []

/-- An exchange that tells nothing of the registry keeps `Untold`. -/
theorem Untold.step {h : UInt64} {w w' : Chronicle × σ} {x : Exchange} (u : Untold ends h w)
    (step : AnyStep k w x w') (goesOn : x.request.opensVisit = false)
    (other : acceptedFor .registry (w.1.effectOf x).toList = []) : Untold ends h w' := by
  obtain ⟨⟨-, account⟩, -⟩ := step
  obtain ⟨height, visit⟩ := Chronicle.visit_after w.1 goesOn
  refine ⟨?_, u.ends, ?_⟩
  · rw [account, height, u.place]
  · rw [account, visit, acceptedFor_append, u.untold, other]
    rfl

/-- The visit of a boundary with the committed top known. -/
structure Known (k : Holding σ) (ends : UInt64 → Prop) (h : UInt64) (last : List StakerRecord)
    (w : Chronicle × σ) : Prop extends Untold ends h w where
  purpose : w.1.purpose = .registry
  held : k.snapshot w.2 = .ok last

/-- The visit of a boundary with the new top told. -/
structure Told (k : Holding σ) (ends : UInt64 → Prop) (h : UInt64) (last top : List StakerRecord)
    (w : Chronicle × σ) : Prop where
  place : w.1.height = h
  ends : ends h
  told : acceptedFor .registry w.1.visit = Departure.told h last top
  held : k.snapshot w.2 = .ok last

/-- The accepted update, `Departure.update last top`, tells of the new top. -/
theorem Known.submit {h : UInt64} {last top : List StakerRecord} {w w' : Chronicle × σ}
    (known : Known k ends h last w) (some : Departure.update last top ≠ [])
    (step : AnyStep k w ⟨.submit ⟨updateCall, Departure.update last top⟩, .ok ()⟩ w') :
    Told k ends h last top w' := by
  obtain ⟨⟨-, account⟩, goes⟩ := step
  obtain ⟨height, visit⟩ := Chronicle.visit_after w.1
    (x := ⟨.submit ⟨updateCall, Departure.update last top⟩, .ok ()⟩) rfl
  refine ⟨?_, known.ends, ?_, ?_⟩
  · rw [account, height, known.place]
  · rw [account, visit, acceptedFor_append, known.untold, Chronicle.effectOf, known.purpose,
      known.place, Departure.told, if_neg some]
    rfl
  · rw [k.snapshot_goes goes rfl, known.held]

/-- The accepted snapshot is backed. -/
theorem Told.commit {h : UInt64} {last top : List StakerRecord} {w w' : Chronicle × σ}
    (told : Told k ends h last top w) (storable : SnapshotForm.Storable top)
    (step : AnyStep k w ⟨.checkpoint (.writeSnapshot top), .ok ()⟩ w') :
    CommitStep k ends w ⟨.checkpoint (.writeSnapshot top), .ok ()⟩ w' := by
  obtain ⟨-, goes⟩ := step
  refine ⟨fun top' taken => ?_, fun _ written => (by cases written)⟩
  obtain rfl : top = top' := by injection taken
  rw [told.place]
  exact ⟨told.ends, last, told.held, k.snapshot_of_write storable goes, told.told⟩

/-- The registry half of a boundary, `commitRegistry`, commits nothing that was not told. -/
theorem conducts_commit_told {schedule : Schedule} {h : UInt64} {w : Chronicle × σ}
    (untold : Untold ends h w) :
    (schedule.commitRegistry h).run.Conducts (AnyStep k) (CommitStep k ends) (fun _ _ => True) w := by
  -- the snapshot is read in this visit and stays as it is until the new one is written
  have ask : ∀ r, Chronicle.Silent r → (AnyStep k).Calm (CommitStep k ends)
      (fun w => Untold ends h w ∧ w.1.purpose = .registry) r := by
    intro r silent w reply w' given
    obtain ⟨untold, purpose⟩ := given
    intro step
    have quiet := silent.quiet w.1 reply
    refine ⟨.idle (Exchange.taken_of_quiet quiet).2 silent.noCursor,
      untold.step step silent.goesOn (by rw [quiet]; rfl), ?_⟩
    obtain ⟨⟨-, account⟩, -⟩ := step
    rw [account, silent.purpose_after, purpose]
  refine Schedule.conducts_commitRegistry
    (R := Walk.Ranked) (A := fun _ w => Untold ends h w ∧ w.1.purpose = .registry)
    (B := fun w => Untold ends h w ∧ w.1.purpose = .registry)
    (C := fun _ last w => Known k ends h last w)
    (D := fun top last w => Told k ends h last top w)
    (E := fun top _ w => w.1.height = h ∧ ends h ∧ w.1.visit.getLast? = some (.keptSnapshot top))
    ?size ?visited ?read ?skip ?submit ?saveTop ?saveCursor
  case size =>
    intro reply w' step
    refine ⟨.idle rfl rfl, ?_⟩
    cases reply with
    | error failure => trivial
    | ok size =>
      refine ⟨untold.step step rfl rfl, ?_⟩
      obtain ⟨⟨-, account⟩, -⟩ := step
      rw [account]
      rfl
  case visited =>
    intro size w held
    exact Walk.conducts_ranked _ size (fun r asks => ask r asks.silent) held
  case read =>
    intro top w reply w' _ held step
    obtain ⟨allowed, untold, purpose⟩ :=
      ask _ Chronicle.silent_readSnapshot w reply w' held step
    refine ⟨allowed, ?_⟩
    cases reply with
    | error failure => trivial
    | ok last =>
      obtain ⟨-, goes⟩ := step
      refine ⟨untold, purpose, ?_⟩
      rw [k.snapshot_goes goes rfl]
      exact k.snapshot_of_read goes
  case skip =>
    intro top last w none known
    refine ⟨known.place, known.ends, ?_, known.held⟩
    rw [known.untold, Departure.told]
    exact (if_pos none).symm
  case submit =>
    intro top last w reply w' some known step
    refine ⟨.idle rfl rfl, ?_⟩
    cases reply with
    | error failure => trivial
    | ok _ => exact known.submit some step
  case saveTop =>
    intro top last w reply w' ranked told step
    cases reply with
    | error failure => exact ⟨.idle rfl rfl, trivial⟩
    | ok _ =>
      -- a top of at most twenty records has a byte form from which it is read again
      refine ⟨told.commit ranked.storable step, ?_⟩
      obtain ⟨⟨-, account⟩, -⟩ := step
      obtain ⟨height, visit⟩ := Chronicle.visit_after w.1
        (x := ⟨.checkpoint (.writeSnapshot top), .ok ()⟩) rfl
      rw [account, height, visit]
      exact ⟨told.place, told.ends, List.getLast?_concat⟩
  case saveCursor =>
    intro top last w reply w' given
    obtain ⟨place, ends, after⟩ := given
    intro step
    have untaken : (Exchange.mk _ reply).takenSnapshot? = none := by cases reply <;> rfl
    refine ⟨⟨fun _ taken => (by cases untaken.symm.trans taken), fun cursor written => ?_⟩,
      by cases reply <;> trivial⟩
    obtain rfl : Saturating.add h 1 = cursor := Option.some.inj written
    rw [place]
    exact ⟨ends, rfl, top, after⟩

/-- So does the `work` at a height. -/
theorem conducts_work_told {scanner : Scanner} {schedule : Schedule} {h : UInt64} {e : OpenEpoch}
    {w : Chronicle × σ} (boundaries : ∀ h, schedule.isBoundary h = true → ends h) :
    (Follower.work scanner schedule h e).Conducts (AnyStep k) (CommitStep k ends)
      (fun _ _ => True) w := by
  refine Follower.conducts_work fun reply w' step => ⟨.idle rfl rfl, ?_⟩
  obtain ⟨⟨-, account⟩, -⟩ := step
  cases reply with
  | error failure => trivial
  | ok logs =>
    simp only
    cases Scanner.decodeFrom h 0 logs with
    | error failure => trivial
    | ok events =>
      by_cases boundary : schedule.isBoundary h = true
      · simp only [if_pos boundary]
        -- the scan opens the visit, so nothing of it was told yet
        have untold : Untold ends h w' := by
          refine ⟨?_, boundaries h boundary, ?_⟩
          all_goals rw [account]; rfl
        have purpose : w'.1.purpose = .deposits := by rw [account]; rfl
        refine Schedule.conducts_settle (Schedule.conducts_flush ?_ ?_)
        · exact fun _ => (conducts_commit_told untold).mono fun outcome _ _ => by
            cases outcome <;> trivial
        · intro _ reply w'' step
          refine ⟨.idle rfl rfl, ?_⟩
          cases reply with
          | error failure => trivial
          | ok _ =>
            have untold' := untold.step step rfl (by rw [Chronicle.effectOf, purpose]; rfl)
            exact (conducts_commit_told untold').mono fun outcome _ _ => by
              cases outcome <;> trivial
      · simp only [if_neg boundary]

end Steps

/-! ## §3. A session that finds a staker gone -/

namespace Session

/-- The record of the staker. -/
def shortRecord : StakerRecord := .ofAddress shortStaker shortAmount

/-- The front of a session that finds the registry empty and tells that the staker left. -/
def leavingFront : List Exchange :=
  ⟨.checkpoint .readCursor, .ok (0 : UInt64)⟩ :: (shortScan ++
    [shortFlush, ⟨.source .registrySize, .ok (0 : UInt64)⟩,
     ⟨.checkpoint .readSnapshot, .ok [shortRecord]⟩,
     ⟨.submit ⟨updateCall, Departure.update [shortRecord] []⟩, .ok ()⟩])

/-- The empty top is committed. -/
def leavingCommit : Exchange := ⟨.checkpoint (.writeSnapshot []), .ok ()⟩

theorem path_leaving : ∃ d, Path short.dialogue (leavingFront ++ [leavingCommit]) d := by
  apply Exists.intro
  with_unfolding_all
    iterate 9 apply Path.step
    apply Path.here

/-- The files of the session. -/
def files : DurableCheckpoint := .inDirectory "d"

/-- The files before the session, which hold the staker. -/
def filesBefore : FileSystem := (files.answer (.writeSnapshot [shortRecord]) .empty).2

/-- The files behind the commit. -/
def filesAfter : FileSystem := (files.answer (.writeSnapshot []) filesBefore).2

/-- In a directory without `..` the snapshot is reached in any sound tree. -/
theorem reaches_files {fs : FileSystem} (sound : fs.Sound) :
    DurableCheckpoint.Reaches files.snapshotPath fs :=
  ⟨sound, .of_down (Path.down_join DurableCheckpoint.isName_snapshotName (by decide))⟩

theorem wrote_before :
    files.MayAnswer .empty (.writeSnapshot [shortRecord]) (.ok ()) filesBefore := by
  have accepted : files.answer (.writeSnapshot [shortRecord]) .empty = (.ok (), filesBefore) :=
    DurableCheckpoint.answered (by decide +kernel)
  have may := files.mayAnswer_answer .empty (.writeSnapshot [shortRecord])
  simp only [accepted] at may
  exact may

theorem wrote_after : files.MayAnswer filesBefore (.writeSnapshot []) (.ok ()) filesAfter := by
  have accepted : files.answer (.writeSnapshot []) filesBefore = (.ok (), filesAfter) :=
    DurableCheckpoint.answered (by decide +kernel)
  have may := files.mayAnswer_answer filesBefore (.writeSnapshot [])
  simp only [accepted] at may
  exact may

/-- A snapshot that was accepted (`MayAnswer`) is read again. -/
theorem readSnapshot_written {c : DurableCheckpoint} {fs fs' : FileSystem}
    {rs : List StakerRecord} (storable : SnapshotForm.Storable rs)
    (wrote : c.MayAnswer fs (.writeSnapshot rs) (.ok ()) fs') : c.readSnapshot fs' = .ok rs := by
  unfold DurableCheckpoint.readSnapshot
  rw [DurableCheckpoint.MayReplace.read wrote, DurableCheckpoint.snapshotOfRead_written storable]

end Session

/-! ## §4. Histories -/

section Histories

variable {σ : Type} (k : Holding σ)

theorem Session.conducts_told {k : Holding σ} {ends : UInt64 → Prop} {s : Session}
    {w : Chronicle × σ} (boundaries : ∀ h, s.schedule.isBoundary h = true → ends h) :
    s.dialogue.Conducts (AnyStep k) (CommitStep k ends) (fun _ _ => True) w := by
  refine conducts_dialogue (J := fun _ _ _ => True) ?resumed ?set ?asked ?polled ?paused ?worked
  case resumed => exact fun _ _ _ _ => ⟨.idle rfl rfl, fun _ _ => trivial⟩
  case set => exact fun _ => trivial
  case asked => exact fun _ _ => calm_true _ (fun _ => rfl) rfl
  case polled => exact fun _ _ => calm_true _ (fun _ => rfl) rfl
  case paused => exact fun _ _ _ => calm_true _ (fun _ => rfl) rfl
  case worked =>
    exact fun e h w _ => (conducts_work_told boundaries).mono fun done _ _ => by
      split
      · trivial
      · exact fun _ => trivial

/-- Every commit is backed, wherever in a history of sessions it takes place. The condition is
    that the checkpoint is `Holding`: the one in memory (`Keeping.volatile`), or two files whose
    paths are `ClearOf` each other, from contents that the snapshot's path `Reaches`
    (`Holding.durable`).
      * When the snapshot is replaced, the destination has accepted in the same visit just
        the update that tells of the change, if there is anything to tell, so that whoever
        disappears from the snapshot was told to have stopped.
      * The cursor is written only behind the snapshot of the same visit, as one more than
        the boundary. -/
theorem commits_are_told {sessions : List Session} {pre post : List Exchange} {x : Exchange}
    (lived : Lived (sessions.map Session.dialogue) (pre ++ x :: post)) {first s s' : σ}
    (before : k.goes.Through first pre s) (step : k.goes s x s') :
    let c := Chronicle.of pre
    let ends (height : UInt64) := ∃ session ∈ sessions, session.schedule.isBoundary height = true
    (k.snapshot s' ≠ k.snapshot s ∨ x.takenSnapshot? ≠ none →
      ends c.height ∧ ∃ last top, k.snapshot s = .ok last ∧ k.snapshot s' = .ok top ∧
        acceptedFor .registry c.visit = Departure.told c.height last top ∧
        ∀ r ∈ last, r.workBase ∉ top.map (·.workBase) →
          ∃ payload, .accepted .registry c.height payload ∈ effects pre ∧
            ∃ r' ∈ payload, r'.workBase = r.workBase ∧ r'.isActive = false) ∧
    (∀ cursor, x.request = .checkpoint (.writeCursor cursor) →
      ends c.height ∧ cursor = Saturating.add c.height 1 ∧
        ∃ top, c.visit.getLast? = some (.keptSnapshot top)) := by
  intro c ends
  have through : (AnyStep k).Through (.blank, first) pre (c, s) :=
    k.through_around before fun _ _ _ _ => trivial
  have allowed : CommitStep k ends (c, s) x (c.after x, s') := by
    refine lived.allowed (I := fun _ => True) through ⟨⟨trivial, rfl⟩, step⟩ trivial ?_
      fun _ _ _ _ _ => trivial
    intro d member w _
    obtain ⟨session, among, rfl⟩ := List.mem_map.mp member
    exact session.conducts_told fun h boundary => ⟨session, among, boundary⟩
  refine ⟨fun changed => ?_, fun cursor request => allowed.behind cursor (by rw [request]; rfl)⟩
  -- only an accepted snapshot replaces the one that is held
  cases taken : x.takenSnapshot? with
  | none =>
    rcases changed with changed | wrote
    · exact absurd (k.snapshot_goes step taken) changed
    · exact absurd taken wrote
  | some top =>
    obtain ⟨boundary, last, held, kept, told⟩ := allowed.backed top taken
    refine ⟨boundary, last, top, held, kept, told, fun r member gone => ?_⟩
    obtain ⟨r', departed, named, inactive⟩ := Departure.departed_covers member gone
    -- whoever left stands in the update, so there was something to tell
    have among : r' ∈ Departure.update last top := List.mem_append_right _ departed
    refine ⟨Departure.update last top, ?_, r', among, named, inactive⟩
    rw [Departure.told, if_neg (List.ne_nil_of_mem among)] at told
    refine (Chronicle.visit_suffix pre).subset (mem_acceptedFor.mp ?_)
    rw [told]
    exact List.mem_singleton_self _

/-- A staker who stands in the snapshot file and no longer in the registry is told to have
    stopped (`isActive = false`) before the file is replaced. -/
theorem leaving_staker_is_told :
    Session.files.readSnapshot Session.filesBefore = .ok [Session.shortRecord] ∧
      Session.files.readSnapshot Session.filesAfter = .ok [] ∧
      ∃ payload, .accepted .registry 0 payload ∈ effects Session.leavingFront ∧
        ∃ r ∈ payload, r.workBase = Session.shortStaker ∧ r.isActive = false := by
  let k := Holding.durable Session.files (DurableCheckpoint.clearOf_cursorPath "d")
  have read := Session.readSnapshot_written
    (SnapshotForm.storable_of_length (by decide) (by decide)) Session.wrote_before
  have read' := Session.readSnapshot_written
    (SnapshotForm.storable_of_length (by simp) (by decide)) Session.wrote_after
  have reaches := Session.reaches_files (DurableCheckpoint.MayAnswer.sound .empty Session.wrote_before)
  have reaches' := DurableCheckpoint.MayAnswer.reaches_snapshot
    (DurableCheckpoint.clearOf_cursorPath "d") reaches Session.wrote_after
  have step : k.goes ⟨_, reaches⟩ Session.leavingCommit ⟨_, reaches'⟩ := Session.wrote_after
  have start : Session.files.readCursor Session.filesBefore = .ok 0 := by rfl
  obtain ⟨d, path⟩ := Session.path_leaving
  have lived : Lived ([Session.short].map Session.dialogue)
      (Session.leavingFront ++ Session.leavingCommit :: []) := by
    simpa using Lived.life path .none
  have through : k.goes.Through ⟨_, reaches⟩ Session.leavingFront ⟨_, reaches⟩ := by
    refine .step ⟨.inl start.symm, rfl⟩ ?_
    iterate 5 refine .step rfl ?_
    refine .step ⟨.inl read.symm, rfl⟩ ?_
    refine .step rfl ?_
    exact .here _
  obtain ⟨-, last, top, heldThen, keptThen, -, gone⟩ :=
    (commits_are_told k lived through step).1 (.inr nofun)
  -- what the files hold is what they read as
  obtain rfl : [Session.shortRecord] = last :=
    Except.ok.inj ((reaches.keptSnapshot read).symm.trans heldThen)
  obtain rfl : [] = top := Except.ok.inj ((reaches'.keptSnapshot read').symm.trans keptThen)
  exact ⟨read, read', gone Session.shortRecord List.mem_cons_self List.not_mem_nil⟩

/-! Where the snapshot's path is not clear of the cursor's, or leads up through a directory that is
    missing, what it reads as changes untold. -/

namespace Session

/-- A top with the staker alone. -/
def shortTop : List StakerRecord := Ranking.top [shortRecord]

theorem shortTop_eq : shortTop = [shortRecord] := by
  simp [shortTop, Ranking.top, Ranking.best, Ranking.ranked, Ranking.topSize]

theorem storable_shortTop : SnapshotForm.Storable shortTop := by
  rw [shortTop_eq]
  exact SnapshotForm.storable_of_length (by decide) (by decide)

/-- The front of a session up to the commit of the registry's only staker. -/
def joiningFront : List Exchange :=
  ⟨.checkpoint .readCursor, .ok (0 : UInt64)⟩ :: (shortScan ++
    [shortFlush, ⟨.source .registrySize, .ok (1 : UInt64)⟩,
     ⟨.source (.stakerAt 0), .ok shortStaker⟩,
     ⟨.source (.stakerInfo shortStaker), .ok shortAmount⟩,
     ⟨.checkpoint .readSnapshot, .ok ([] : List StakerRecord)⟩,
     ⟨.submit ⟨updateCall, Departure.update [] shortTop⟩, .ok ()⟩,
     ⟨.checkpoint (.writeSnapshot shortTop), .ok ()⟩])

/-- The cursor is written behind it. -/
def joiningMark : Exchange := ⟨.checkpoint (.writeCursor 1), .ok ()⟩

theorem path_joining : ∃ d, Path short.dialogue (joiningFront ++ [joiningMark]) d := by
  apply Exists.intro
  with_unfolding_all
    iterate 12 apply Path.step
    apply Path.here

/-- The files behind the snapshot, where the snapshot is in the cursor's sibling. -/
def clashingSaved : FileSystem :=
  (DurableCheckpoint.clashing.answer (.writeSnapshot shortTop) .empty).2

/-- The files behind the cursor. -/
def clashingMarked : FileSystem :=
  (DurableCheckpoint.clashing.answer (.writeCursor 1) clashingSaved).2

/-- A checkpoint whose snapshot's path leads up again. -/
def upward : DurableCheckpoint := ⟨"latest_block", "a/../stake_info.rlp"⟩

/-- The snapshot is there, the directory on its way is not, and its sibling is a directory. -/
def upwardFiles : FileSystem :=
  (FileSystem.empty.put ["stake_info.rlp"] (.file (SnapshotForm.encode shortTop))).put
    ["stake_info.rlp.tmp"] .directory

/-- The front of a session that finds the registry empty, and no snapshot. -/
def emptyFront : List Exchange :=
  ⟨.checkpoint .readCursor, .ok (0 : UInt64)⟩ :: (shortScan ++
    [shortFlush, ⟨.source .registrySize, .ok (0 : UInt64)⟩,
     ⟨.checkpoint .readSnapshot, .ok ([] : List StakerRecord)⟩])

/-- The empty top is refused, because the sibling cannot be written. -/
def upwardCommit : Exchange :=
  ⟨.checkpoint (.writeSnapshot (Ranking.top [])),
    .error (.storage (.write "a/../stake_info.rlp.tmp" .isDirectory))⟩

/-- The files behind the refusal, in which the directory was made. -/
def upwardMade : FileSystem := (upward.answer (.writeSnapshot (Ranking.top [])) upwardFiles).2

theorem path_empty : ∃ d, Path short.dialogue (emptyFront ++ [upwardCommit]) d := by
  apply Exists.intro
  with_unfolding_all
    iterate 8 apply Path.step
    apply Path.here

end Session

open DurableCheckpoint (clashing) in
open Session in
/-- Files can change the committed snapshot untold. In the cursor's sibling (`clashing`) it is
    gone behind the cursor of its own boundary, and nobody was told to have stopped; and behind
    a directory that is missing (`upward`) it comes back when the directory is made for a write
    that is refused, and nothing was told of the registry. -/
theorem snapshot_changes_untold :
    (Lived [short.dialogue] (joiningFront ++ [joiningMark]) ∧
      (Storing.durable clashing).goes.Through .empty joiningFront clashingSaved ∧
      (Storing.durable clashing).goes clashingSaved joiningMark clashingMarked ∧
      clashing.readSnapshot clashingSaved = .ok shortTop ∧
      clashing.readSnapshot clashingMarked = .ok [] ∧
      ∀ u ∈ acceptedFor .registry (effects joiningFront), ∀ r ∈ u.2, r.isActive = true) ∧
    Lived [short.dialogue] (emptyFront ++ [upwardCommit]) ∧
      (Storing.durable upward).goes.Through upwardFiles emptyFront upwardFiles ∧
      (Storing.durable upward).goes upwardFiles upwardCommit upwardMade ∧
      upward.readSnapshot upwardFiles = .ok [] ∧
      upward.readSnapshot upwardMade = .ok shortTop ∧
      acceptedFor .registry (effects emptyFront) = [] := by
  have saved : clashing.answer (.writeSnapshot shortTop) .empty = (.ok (), clashingSaved) :=
    DurableCheckpoint.answered (by decide +kernel)
  have marked : clashing.answer (.writeCursor 1) clashingSaved = (.ok (), clashingMarked) :=
    DurableCheckpoint.answered (by decide +kernel)
  have refused : upward.answer (.writeSnapshot (Ranking.top [])) upwardFiles =
      (.error (.storage (.write "a/../stake_info.rlp.tmp" .isDirectory)), upwardMade) := by
    exact Prod.ext (by rfl) rfl
  have may := clashing.mayAnswer_answer .empty (.writeSnapshot shortTop)
  have may' := clashing.mayAnswer_answer clashingSaved (.writeCursor 1)
  have may'' := upward.mayAnswer_answer upwardFiles (.writeSnapshot (Ranking.top []))
  simp only [saved] at may
  simp only [marked] at may'
  simp only [refused] at may''
  -- no staker was lost in the first session, so its update names none as stopped
  have told : acceptedFor .registry (effects joiningFront) = [(0, Departure.update [] shortTop)] := by
    rfl
  obtain ⟨d, path⟩ := path_joining
  obtain ⟨d', path'⟩ := path_empty
  refine ⟨⟨by simpa using Lived.life path .none, ?_, may', readSnapshot_written storable_shortTop may,
    DurableCheckpoint.readSnapshot_of_sibling (by decide +kernel) marked, ?_⟩,
    by simpa using Lived.life path' .none, ?_, may'', ?_, ?_, by rfl⟩
  · refine .step ⟨.inl (by rfl), rfl⟩ ?_
    iterate 7 refine .step rfl ?_
    refine .step ⟨.inl (by rfl), rfl⟩ ?_
    refine .step rfl ?_
    exact .step may (.here _)
  · rw [told]
    refine List.forall_mem_singleton.mpr fun r member => ?_
    rcases List.mem_append.mp member with stands | departed
    · rw [shortTop_eq] at stands
      rw [List.mem_singleton.mp stands]
      rfl
    · cases departed
  · refine .step ⟨.inl (by rfl), rfl⟩ ?_
    iterate 5 refine .step rfl ?_
    exact .step ⟨.inl (by rfl), rfl⟩ (.here _)
  · rfl
  · have reached : upwardMade.read upward.snapshotPath = .ok (SnapshotForm.encode shortTop) := by rfl
    unfold DurableCheckpoint.readSnapshot
    rw [reached, DurableCheckpoint.snapshotOfRead_written storable_shortTop]

end Histories

end StakeRelay
