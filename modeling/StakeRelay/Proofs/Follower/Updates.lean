/-
  StakeRelay.Proofs.Follower.Updates — the shape of an update.

  An update of the registry carries the new top and whoever left the committed one, so its
  size depends on what was committed before. Nothing but a top is ever committed: wherever a
  run looks at the committed snapshot it is a top, or still the one that the first run found.
  If that one was small enough, no update is too large.

  Main statements:
    * `Walk.Ranked.isTop`, `Departure.isGone_departed` — the two parts of an update;
    * `conducts_work_shaped` — what the work at a height offers and commits;
    * `conducts_work_followed` — what follows an accepted update of the registry;
    * `updates_have_their_shape` — every update of a history.
-/

import StakeRelay.Proofs.Follower.Commits
import StakeRelay.Proofs.Staker.Ranking

namespace StakeRelay

open Dialogue

/-! ## §1. The parts of an update -/

/-- The shape of a top. -/
structure Ranking.IsTop (top : List StakerRecord) : Prop where
  length_le : top.length ≤ 20
  active : ∀ r ∈ top, r.isActive = true
  unworked : ∀ r ∈ top, r.workCount = 0
  /-- The amounts fall. -/
  falling : top.Pairwise fun a b => b.lockedBalance ≤ a.lockedBalance
  /-- Each key is the address behind twelve zero bytes. -/
  keyed : ∀ r ∈ top, r.identity.bytes = List.replicate 12 0 ++ r.workBase.bytes

/-- The shape of what is told behind a top of those who left. -/
structure Departure.IsGone (top gone : List StakerRecord) : Prop where
  length_le : gone.length ≤ 20
  inactive : ∀ r ∈ gone, r.isActive = false
  distinct : (gone.map (·.workBase)).Nodup
  apart : ∀ r ∈ gone, r.workBase ∉ top.map (·.workBase)

/-- The shape of an update of the registry, `found` being what was committed before the first
    run. -/
structure Departure.IsUpdate (found : Except Failure (List StakerRecord))
    (payload top gone : List StakerRecord) : Prop where
  split : payload = top ++ gone
  length_le : payload.length ≤ 40
  isTop : Ranking.IsTop top
  isGone : IsGone top gone
  /-- A key is the address behind twelve zero bytes, or it was found. -/
  keyed : ∀ r ∈ payload, r.identity.bytes = List.replicate 12 0 ++ r.workBase.bytes ∨
    ∃ initial, found = .ok initial ∧ ∃ r₀ ∈ initial, r = r₀.stopped

/-- A top that a walk leads to (`Ranked`) has its shape. -/
theorem Walk.Ranked.isTop {top : List StakerRecord} (ranked : Walk.Ranked top) :
    Ranking.IsTop top where
  length_le := ranked.length_le
  active := ranked.active
  unworked := by
    intro r member
    rw [ranked.fresh r member]
    rfl
  falling := by
    obtain ⟨records, -, rfl⟩ := ranked
    exact Ranking.falling_top records
  keyed := by
    intro r member
    rw [ranked.fresh r member]
    exact AccountId.bytes_ofAddress _

/-- Those who left a top of at most twenty stakers. -/
theorem Departure.isGone_departed {last : List StakerRecord} (top : List StakerRecord)
    (few : last.length ≤ 20) : IsGone top (departed last top) where
  length_le := Nat.le_trans (length_departed_le last top) few
  inactive := fun _ member => (of_departed member).1
  distinct := nodup_departed last top
  apart := fun _ member => (of_departed member).2.2

/-- The records are a top, or they were found by the first run. -/
def Departure.Base (found : Except Failure (List StakerRecord)) (last : List StakerRecord) : Prop :=
  found = .ok last ∨ Walk.Ranked last

/-- The change to a new top, `Departure.update last top`. -/
theorem Departure.isUpdate_update {found : Except Failure (List StakerRecord)}
    {last top : List StakerRecord}
    (few : ∀ initial, found = .ok initial → initial.length ≤ 20)
    (base : Departure.Base found last) (ranked : Walk.Ranked top) :
    IsUpdate found (update last top) top (departed last top) := by
  have small : last.length ≤ 20 := by
    rcases base with same | ranked
    · exact few last same
    · exact ranked.length_le
  have gone := isGone_departed top small
  refine ⟨rfl, ?_, ranked.isTop, gone, fun r member => ?_⟩
  · have := ranked.isTop.length_le
    have := gone.length_le
    rw [update, List.length_append]
    omega
  · rcases List.mem_append.mp member with stands | departed
    · exact .inl (ranked.isTop.keyed r stands)
    · obtain ⟨r₀, stood, rfl, -⟩ := exists_of_mem_departed departed
      rcases base with same | ranked
      · exact .inr ⟨last, same, r₀, stood, rfl⟩
      · exact .inl (ranked.isTop.keyed r₀ stood)

/-! ## §2. Steps that offer and commit -/

section Steps

variable {σ : Type} (k : Holding σ) (first : Except Failure (List StakerRecord))

/-- What is committed is a top, or it was found by the first run. -/
def Based (w : Chronicle × σ) : Prop :=
  ∀ last, k.snapshot w.2 = .ok last → Departure.Base first last

/-- What an update may carry where it is offered. -/
inductive Carries (w : Chronicle × σ) (payload : List StakerRecord) : Prop
  /-- The greatest deposits. -/
  | deposits (purpose : w.1.purpose = .deposits) (ranked : Walk.Ranked payload)
  /-- The change from what was committed to a new top. -/
  | registry {last top : List StakerRecord} (purpose : w.1.purpose = .registry)
      (held : k.snapshot w.2 = .ok last) (base : Departure.Base first last)
      (ranked : Walk.Ranked top) (change : payload = Departure.update last top)

/-- What holds of each exchange. -/
structure ShapeStep (w : Chronicle × σ) (x : Exchange) (w' : Chronicle × σ) : Prop where
  offered : ∀ update, x.request = .submit update →
    update.payload ≠ [] ∧ Carries k first w update.payload
  committed : ∀ snapshot, x.request = .checkpoint (.writeSnapshot snapshot) →
    Walk.Ranked snapshot
  based : Based k first w'

/-- The registry half of a boundary. -/
structure Midway (w : Chronicle × σ) : Prop where
  based : Based k first w
  purpose : w.1.purpose = .registry

variable {k first} {w w' : Chronicle × σ} {x : Exchange} {e : OpenEpoch}

theorem Based.step (based : Based k first w) (step : AnyStep k w x w')
    (untaken : x.takenSnapshot? = none) : Based k first w' := by
  obtain ⟨-, goes⟩ := step
  unfold Based
  rw [k.snapshot_goes goes untaken]
  exact based

/-- A request without an effect is allowed (`ShapeStep`). -/
theorem calm_based {r : Request} (quiet : ∀ c reply, Chronicle.effectOf c ⟨r, reply⟩ = none) :
    (AnyStep k).Calm (ShapeStep k first) (Based k first) r := by
  intro w reply w' based step
  have based' := based.step step (Exchange.taken_of_quiet (quiet w.1 reply)).2
  refine ⟨⟨fun update same => ?_, fun snapshot same => ?_, based'⟩, based'⟩
  · cases (show r = .submit update from same)
    cases quiet .blank (.ok ())
  · cases (show r = .checkpoint (.writeSnapshot snapshot) from same)
    cases quiet .blank (.ok ())

theorem calm_midway {r : Request} (silent : Chronicle.Silent r) :
    (AnyStep k).Calm (ShapeStep k first) (Midway k first) r := by
  intro w reply w' midway step
  obtain ⟨allowed, based⟩ := calm_based silent.quiet w reply w' midway.based step
  obtain ⟨⟨-, account⟩, -⟩ := step
  refine ⟨allowed, based, ?_⟩
  rw [account, silent.purpose_after, midway.purpose]

/-- An update that may be offered: it is not empty and `Carries` what it should. -/
theorem ShapeStep.submit {payload : List StakerRecord} {reply : Except Failure Unit}
    (based : Based k first w) (some : payload ≠ []) (carries : Carries k first w payload)
    (step : AnyStep k w ⟨.submit ⟨updateCall, payload⟩, reply⟩ w') :
    ShapeStep k first w ⟨.submit ⟨updateCall, payload⟩, reply⟩ w' := by
  refine ⟨fun update same => ?_, nofun, based.step step rfl⟩
  cases same
  exact ⟨some, carries⟩

/-- A ranked top is committed or refused. -/
theorem ShapeStep.saveTop {top : List StakerRecord} {reply : Except Failure Unit}
    (based : Based k first w) (ranked : Walk.Ranked top)
    (step : AnyStep k w ⟨.checkpoint (.writeSnapshot top), reply⟩ w') :
    ShapeStep k first w ⟨.checkpoint (.writeSnapshot top), reply⟩ w' := by
  refine ⟨nofun, fun snapshot same => ?_, ?_⟩
  · cases same
    exact ranked
  · cases reply with
    | error failure => exact based.step step rfl
    | ok _ =>
      intro last held
      rw [k.snapshot_of_write ranked.storable step.2] at held
      exact .inr (Except.ok.inj held ▸ ranked)

/-- The registry half of a boundary, `commitRegistry`, offers the change of what is committed
    and commits the new top. -/
theorem conducts_commit_shaped {schedule : Schedule} {height : UInt64}
    (based : Based k first w) :
    (schedule.commitRegistry height).run.Conducts (AnyStep k) (ShapeStep k first)
      (fun _ => Based k first) w := by
  refine Schedule.conducts_commitRegistry (R := Walk.Ranked)
    (A := fun _ => Midway k first) (B := Midway k first)
    (C := fun top last w => Midway k first w ∧ k.snapshot w.2 = .ok last ∧ Walk.Ranked top)
    (D := fun _ _ => Based k first) (E := fun _ _ => Based k first)
    ?size ?visited ?read ?skip ?submit ?saveTop ?saveCursor
  case size =>
    intro reply w' step
    obtain ⟨allowed, based'⟩ := calm_based (fun _ _ => rfl) w reply w' based step
    refine ⟨allowed, ?_⟩
    cases reply with
    | error failure => exact based'
    | ok size =>
      refine ⟨based', ?_⟩
      obtain ⟨⟨-, account⟩, -⟩ := step
      rw [account]
      rfl
  case visited =>
    exact fun size w midway =>
      Walk.conducts_ranked _ size (fun r asks => calm_midway asks.silent) midway
  case read =>
    intro top w reply w' ranked midway step
    obtain ⟨allowed, midway'⟩ := calm_midway Chronicle.silent_readSnapshot w reply w' midway step
    refine ⟨allowed, ?_⟩
    cases reply with
    | error failure => exact midway'.based
    | ok last =>
      -- what was read is still committed when the update is offered
      obtain ⟨-, goes⟩ := step
      refine ⟨midway', ?_, ranked⟩
      rw [k.snapshot_goes goes rfl]
      exact k.snapshot_of_read goes
  case skip => exact fun top last w _ given => given.1.based
  case submit =>
    intro top last w reply w' some given step
    obtain ⟨midway, held, ranked⟩ := given
    have allowed := ShapeStep.submit midway.based some
      (.registry midway.purpose held (midway.based last held) ranked rfl) step
    refine ⟨allowed, ?_⟩
    cases reply <;> exact allowed.based
  case saveTop =>
    intro top last w reply w' ranked based step
    have allowed := ShapeStep.saveTop based ranked step
    refine ⟨allowed, ?_⟩
    cases reply <;> exact allowed.based
  case saveCursor =>
    intro top last w reply w' based step
    have based' := based.step step (by cases reply <;> rfl)
    refine ⟨⟨nofun, nofun, based'⟩, ?_⟩
    cases reply <;> exact based'

/-- The deposit half of a boundary, `flush`, offers the greatest deposits. -/
theorem conducts_flush_shaped (fresh : Walk.Fresh e.records) (based : Based k first w)
    (purpose : w.1.purpose = .deposits) :
    (Schedule.flush e).Conducts (AnyStep k) (ShapeStep k first)
      (fun done w => Walk.Fresh done.2.records ∧ Based k first w) w := by
  refine Schedule.conducts_flush (fun _ => ⟨fresh, based⟩) fun held reply w' step => ?_
  have some : Ranking.top e.records ≠ [] := by
    rw [← List.length_pos_iff, Ranking.top, Ranking.length_best]
    exact Nat.lt_min.mpr ⟨by decide, List.length_pos_iff.mpr held⟩
  have allowed := ShapeStep.submit based some (.deposits purpose ⟨e.records, fresh, rfl⟩) step
  refine ⟨allowed, ?_⟩
  cases reply with
  | error failure => exact ⟨fresh, allowed.based⟩
  | ok _ => exact ⟨List.forall_mem_nil _, allowed.based⟩

/-- The `work` at a height offers updates of their shape and commits tops. -/
theorem conducts_work_shaped {scanner : Scanner} {schedule : Schedule} {height : UInt64}
    (fresh : Walk.Fresh e.records) (based : Based k first w) :
    (Follower.work scanner schedule height e).Conducts (AnyStep k) (ShapeStep k first)
      (fun done w => Walk.Fresh done.2.records ∧ Based k first w) w := by
  refine Follower.conducts_work fun reply w' step => ?_
  obtain ⟨allowed, based'⟩ := calm_based (fun _ _ => rfl) w reply w' based step
  refine ⟨allowed, ?_⟩
  cases reply with
  | error failure => exact ⟨fresh, based'⟩
  | ok logs =>
    simp only
    cases Scanner.decodeFrom height 0 logs with
    | error failure => exact ⟨fresh, based'⟩
    | ok events =>
      -- the deposits of the block are records of stakers now, as were those before
      have fresh' := e.forall_absorb height events fresh fun _ _ => rfl
      by_cases boundary : schedule.isBoundary height = true
      · simp only [if_pos boundary]
        have purpose : w'.1.purpose = .deposits := by
          obtain ⟨⟨-, account⟩, -⟩ := step
          rw [account]
          rfl
        refine Schedule.conducts_settle ((conducts_flush_shaped fresh' based' purpose).mono ?_)
        rintro ⟨flushed, e'⟩ w'' ⟨fresh'', based''⟩
        cases flushed with
        | error failure => exact ⟨fresh'', based''⟩
        | ok n =>
          refine (conducts_commit_shaped based'').mono fun outcome w₃ based₃ => ?_
          cases outcome <;> exact ⟨fresh'', based₃⟩
      · simp only [if_neg boundary]
        exact ⟨fresh', based'⟩

/-- So does a session, whatever was committed before it. -/
theorem Session.conducts_shaped (s : Session) (based : Based k first w) :
    s.dialogue.Conducts (AnyStep k) (ShapeStep k first) (fun _ _ => True) w := by
  -- an open epoch holds deposits only, at every loop top
  have calm (e : OpenEpoch) {r : Request}
      (quiet : ∀ c reply, Chronicle.effectOf c ⟨r, reply⟩ = none) :
      (AnyStep k).Calm (ShapeStep k first)
        (fun w => Walk.Fresh e.records ∧ Based k first w) r := by
    rintro w reply w' ⟨fresh, based⟩ step
    obtain ⟨allowed, based'⟩ := calm_based quiet w reply w' based step
    exact ⟨allowed, fresh, based'⟩
  refine conducts_dialogue (J := fun e _ w => Walk.Fresh e.records ∧ Based k first w)
    ?resumed ?set ?asked ?polled ?paused ?worked
  case resumed =>
    intro _ reply w' step
    obtain ⟨allowed, based'⟩ := calm_based (fun _ _ => rfl) w reply w' based step
    exact ⟨allowed, fun _ _ => ⟨List.forall_mem_nil _, based'⟩⟩
  case set => exact fun _ => ⟨List.forall_mem_nil _, based⟩
  case asked => exact fun e _ => calm e fun _ _ => rfl
  case polled => exact fun e _ => calm e fun _ _ => rfl
  case paused => exact fun e _ _ => calm e fun _ _ => rfl
  case worked =>
    intro e h w given
    refine (conducts_work_shaped given.1 given.2).mono fun done w' given' => ?_
    split
    · exact given'
    · exact fun _ => given'

end Steps

/-! ## §3. What follows an accepted update -/

section Following

/-- The state is the last exchange. -/
def lastly : Surroundings (Option Exchange) := fun _ x last => last = some x

theorem through_lastly (last : Option Exchange) (t : List Exchange) (x : Exchange) :
    lastly.Through last (t ++ [x]) (some x) := by
  induction t generalizing last with
  | nil => exact .step rfl (.here _)
  | cons y t ih => exact .step rfl (ih (some y))

/-- The account of all exchanges beside the last one of a life. -/
abbrev Noting : Surroundings (Chronicle × Option Exchange) :=
  (Chronicle.follows fun _ _ => True).beside lastly

/-- The last exchange was an accepted update of the registry. -/
def JustTold (g : Chronicle × Option Exchange) (payload : List StakerRecord) : Prop :=
  ∃ update, g.2 = some ⟨.submit update, .ok ()⟩ ∧ update.payload = payload ∧
    g.1.purpose = .registry

/-- An accepted update of the registry is followed by its first part, which is to be
    committed. -/
def FollowStep (g : Chronicle × Option Exchange) (x : Exchange)
    (_ : Chronicle × Option Exchange) : Prop :=
  ∀ payload, JustTold g payload →
    x.request = .checkpoint (.writeSnapshot (payload.filter (·.isActive)))

/-- No update of the registry was accepted just now. -/
def Free (g : Chronicle × Option Exchange) : Prop := ∀ payload, ¬ JustTold g payload

variable {g g' : Chronicle × Option Exchange} {x : Exchange}

theorem FollowStep.of_free (free : Free g) : FollowStep g x g' :=
  fun payload told => absurd told (free payload)

/-- Nothing is told by an exchange that is no accepted update. -/
theorem free_of_step (step : Noting g x g')
    (untold : ∀ update, x ≠ ⟨.submit update, .ok ()⟩) : Free g' := by
  rintro payload ⟨update, last, -⟩
  obtain ⟨-, noted⟩ := step
  exact untold update (Option.some.inj (noted.symm.trans last))

theorem calm_free {r : Request} (unsent : ∀ update, r ≠ .submit update) :
    Noting.Calm FollowStep Free r := by
  intro g reply g' free step
  exact ⟨.of_free free, free_of_step step fun update same =>
    unsent update (congrArg Exchange.request same)⟩

/-- The new top is committed behind its update. -/
theorem conducts_commit_followed {schedule : Schedule} {height : UInt64} (free : Free g) :
    (schedule.commitRegistry height).run.Conducts Noting FollowStep (fun _ => Free) g := by
  -- only behind the accepted update is something owed (`D`), and the snapshot pays it
  refine Schedule.conducts_commitRegistry (R := Walk.Ranked) (A := fun _ => Free) (B := Free)
    (C := fun top _ g => Walk.Ranked top ∧ Free g)
    (D := fun top _ g => ∀ payload, JustTold g payload → payload.filter (·.isActive) = top)
    (E := fun _ _ => Free) ?size ?visited ?read ?skip ?submit ?saveTop ?saveCursor
  case size =>
    intro reply g' step
    obtain ⟨allowed, free'⟩ := calm_free (by nofun) g reply g' free step
    refine ⟨allowed, ?_⟩
    cases reply <;> exact free'
  case visited =>
    refine fun size g free => Walk.conducts_ranked _ size (fun r asks => ?_) free
    exact calm_free fun _ same => by cases asks <;> cases same
  case read =>
    intro top g reply g' ranked free step
    obtain ⟨allowed, free'⟩ := calm_free (by nofun) g reply g' free step
    refine ⟨allowed, ?_⟩
    cases reply with
    | error failure => exact free'
    | ok last => exact ⟨ranked, free'⟩
  case skip => exact fun top last g _ given payload told => absurd told (given.2 payload)
  case submit =>
    intro top last g reply g' _ given step
    refine ⟨.of_free given.2, ?_⟩
    cases reply with
    | error failure => exact free_of_step step fun _ => nofun
    | ok _ =>
      rintro payload ⟨update, told, rfl, -⟩
      obtain ⟨-, noted⟩ := step
      cases Option.some.inj (noted.symm.trans told)
      exact Departure.filter_update last given.1.active
  case saveTop =>
    intro top last g reply g' _ told step
    refine ⟨fun payload just => by rw [told payload just], ?_⟩
    cases reply <;> exact free_of_step step fun _ => nofun
  case saveCursor =>
    intro top last g reply g' free step
    obtain ⟨allowed, free'⟩ := calm_free (by nofun) g reply g' free step
    refine ⟨allowed, ?_⟩
    cases reply <;> exact free'

/-- The work at a height ends behind the commit, if there is one. -/
theorem conducts_work_followed {scanner : Scanner} {schedule : Schedule} {height : UInt64}
    {e : OpenEpoch} (free : Free g) :
    (Follower.work scanner schedule height e).Conducts Noting FollowStep (fun _ => Free) g := by
  refine Follower.conducts_work fun reply g' step => ?_
  obtain ⟨allowed, free'⟩ := calm_free (by nofun) g reply g' free step
  refine ⟨allowed, ?_⟩
  cases reply with
  | error failure => exact free'
  | ok logs =>
    simp only
    cases Scanner.decodeFrom height 0 logs with
    | error failure => exact free'
    | ok events =>
      by_cases boundary : schedule.isBoundary height = true
      · simp only [if_pos boundary]
        have purpose : g'.1.purpose = .deposits := by
          obtain ⟨⟨-, account⟩, -⟩ := step
          rw [account]
          rfl
        refine Schedule.conducts_settle (Schedule.conducts_flush ?_ ?_)
        · exact fun _ => (conducts_commit_followed free').mono fun outcome _ free'' => by
            cases outcome <;> exact free''
        · intro _ reply g'' step
          refine ⟨.of_free free', ?_⟩
          cases reply with
          | error failure => exact free_of_step step fun _ => nofun
          | ok _ =>
            -- the accepted update is that of the deposits
            have free'' : Free g'' := by
              rintro payload ⟨-, -, -, registry⟩
              obtain ⟨⟨-, account⟩, -⟩ := step
              rw [account, Chronicle.purpose_after _ rfl rfl, purpose] at registry
              cases registry
            exact (conducts_commit_followed free'').mono fun outcome _ free₃ => by
              cases outcome <;> exact free₃
      · simp only [if_neg boundary]
        exact free'

/-- So does a session. -/
theorem Session.conducts_followed (s : Session) (c : Chronicle) :
    s.dialogue.Conducts Noting FollowStep (fun _ _ => True) (c, none) := by
  have free : Free (c, none) := by
    rintro payload ⟨update, told, -⟩
    cases told
  refine conducts_dialogue (J := fun _ _ => Free) ?resumed ?set ?asked ?polled ?paused ?worked
  case resumed =>
    intro _ reply g' step
    obtain ⟨allowed, free'⟩ := calm_free (by nofun) _ reply g' free step
    exact ⟨allowed, fun _ _ => free'⟩
  case set => exact fun _ => free
  case asked => exact fun _ _ => calm_free (by nofun)
  case polled => exact fun _ _ => calm_free (by nofun)
  case paused => exact fun _ _ _ => calm_free (by nofun)
  case worked =>
    intro e h g free
    refine (conducts_work_followed free).mono fun done g' free' => ?_
    split
    · exact free'
    · exact fun _ => free'

/-- Behind an accepted update of the registry its first part, the active records, is to be
    committed (`writeSnapshot`), unless the life is cut off there. -/
theorem told_is_committed_next {sessions : List Session} {pre post : List Exchange}
    {update : Update}
    (lived : Lived (sessions.map Session.dialogue) (pre ++ ⟨.submit update, .ok ()⟩ :: post))
    (purpose : (Chronicle.of pre).purpose = .registry) :
    Lived.Cut (sessions.map Session.dialogue) (pre ++ [⟨.submit update, .ok ()⟩]) post ∨
      ∃ reply rest, post =
        ⟨.checkpoint (.writeSnapshot (update.payload.filter (·.isActive))), reply⟩ :: rest := by
  rcases lived.next with cut | ⟨y, rest, rfl, d, member, t, front, back, d', rfl, path⟩
  · exact .inl cut
  obtain ⟨session, -, rfl⟩ := List.mem_map.mp member
  -- the life began without a last exchange, and then the update is the last one
  have through : Noting.Through (Chronicle.of t, none) (front ++ [⟨.submit update, .ok ()⟩])
      (Chronicle.of (t ++ (front ++ [⟨.submit update, .ok ()⟩])),
        some ⟨.submit update, .ok ()⟩) :=
    (Chronicle.through_follows_from t fun _ _ _ _ => trivial).beside (through_lastly none front _)
  rw [List.append_cons] at path
  have step : Noting (Chronicle.of (t ++ (front ++ [⟨.submit update, .ok ()⟩])),
      some ⟨.submit update, .ok ()⟩) y (_, some y) := ⟨⟨trivial, rfl⟩, rfl⟩
  have allowed := (session.conducts_followed (.of t)).allowed path through step
  have registry : (Chronicle.of (t ++ (front ++ [⟨.submit update, .ok ()⟩]))).purpose =
      .registry := by
    rw [← List.append_assoc, Chronicle.of_concat, Chronicle.purpose_after _ rfl rfl, purpose]
  have commits := allowed update.payload ⟨update, rfl, rfl, registry⟩
  obtain ⟨request, reply⟩ := y
  subst commits
  exact .inr ⟨reply, rest, rfl⟩

end Following

/-! ## §4. Histories -/

section Histories

variable {σ : Type} (k : Holding σ)

/-- Every update of a history of sessions has its shape, whatever the partners do and wherever
    the sessions are cut off, if no more than twenty stakers were found in the checkpoint
    (`few`):
      * no update is empty;
      * an update of the deposits is a top (`Ranking.IsTop`);
      * an update of the registry is a top with those behind it who left the committed one
        (`Departure.IsUpdate`), and the top is what is to be committed next, unless the session is
        cut off there.
    Whatever is to be committed is a top, too. -/
theorem updates_have_their_shape {sessions : List Session} {t : List Exchange}
    (lived : Lived (sessions.map Session.dialogue) t) {s₀ s : σ}
    (few : ∀ initial, k.snapshot s₀ = .ok initial → initial.length ≤ 20)
    (through : k.goes.Through s₀ t s) :
    (∀ pre update reply post, t = pre ++ ⟨.submit update, reply⟩ :: post →
      update.payload ≠ [] ∧
      ((Chronicle.of pre).purpose = .deposits → Ranking.IsTop update.payload) ∧
      ((Chronicle.of pre).purpose = .registry → ∃ top gone,
        Departure.IsUpdate (k.snapshot s₀) update.payload top gone ∧
        (reply = .ok () →
          Lived.Cut (sessions.map Session.dialogue) (pre ++ [⟨.submit update, reply⟩]) post ∨
            ∃ answer rest, post = ⟨.checkpoint (.writeSnapshot top), answer⟩ :: rest))) ∧
    ∀ snapshot reply, ⟨.checkpoint (.writeSnapshot snapshot), reply⟩ ∈ t →
      Ranking.IsTop snapshot := by
  have start : Based k (k.snapshot s₀) (.blank, s₀) := fun _ held => .inl held
  -- what every exchange shows, in whichever session it takes place
  have shaped : ∀ pre x post, t = pre ++ x :: post → ∃ s₁ w',
      ShapeStep k (k.snapshot s₀) (.of pre, s₁) x w' := by
    rintro pre x post rfl
    obtain ⟨s₁, before, rest⟩ := through.split
    cases rest with
    | @step _ s₂ _ _ _ goes _ =>
      have step : AnyStep k (.of pre, s₁) x ((Chronicle.of pre).after x, s₂) :=
        ⟨⟨trivial, rfl⟩, goes⟩
      refine ⟨s₁, _, lived.allowed (I := Based k (k.snapshot s₀))
        (k.through_around before fun _ _ _ _ => trivial) step start ?_
        fun _ _ _ _ allowed => allowed.based⟩
      intro d member w based
      obtain ⟨session, -, rfl⟩ := List.mem_map.mp member
      exact session.conducts_shaped based
  refine ⟨?_, fun snapshot reply member => ?_⟩
  · rintro pre update reply post rfl
    obtain ⟨s₁, w', step⟩ := shaped pre _ post rfl
    obtain ⟨some, carries⟩ := step.offered update rfl
    refine ⟨some, fun deposits => ?_, fun registry => ?_⟩
    · cases carries with
      | deposits _ ranked => exact ranked.isTop
      | registry purpose => cases purpose.symm.trans deposits
    · cases carries with
      | deposits purpose => cases purpose.symm.trans registry
      | @registry last top _ _ base ranked change =>
        refine ⟨top, Departure.departed last top, ?_, ?_⟩
        · rw [change]
          exact Departure.isUpdate_update few base ranked
        · rintro rfl
          have next := told_is_committed_next lived registry
          rwa [change, Departure.filter_update last ranked.active] at next
  · obtain ⟨pre, post, whole⟩ := List.append_of_mem member
    obtain ⟨s₁, w', step⟩ := shaped pre _ post whole
    exact (step.committed snapshot rfl).isTop

namespace Session

/-- The session that finds the registry empty, up to the update that tells of it. -/
def leavingRead : List Exchange :=
  ⟨.checkpoint .readCursor, .ok (0 : UInt64)⟩ :: (shortScan ++
    [shortFlush, ⟨.source .registrySize, .ok (0 : UInt64)⟩,
     ⟨.checkpoint .readSnapshot, .ok [shortRecord]⟩])

/-- The checkpoint before the session, which holds the staker. -/
def leavingKept : VolatileCheckpoint := ⟨none, [shortRecord], [], false, false⟩

theorem through_leaving : Keeping.volatile.goes.Through leavingKept
    (leavingFront ++ [leavingCommit]) ⟨none, [], [.snapshot 0], false, false⟩ := by
  refine .step (.inl rfl) ?_
  iterate 5 refine .step rfl ?_
  refine .step (.inl rfl) ?_
  refine .step rfl ?_
  refine .step (.inl rfl) ?_
  exact .here _

end Session

open Session in
/-- The staker that left, `shortRecord.stopped`, stands alone in the update, and the empty top
    in front of it is what is committed. -/
theorem leaving_update_has_its_shape :
    leavingFront ++ [leavingCommit] = leavingRead ++
        [⟨.submit ⟨updateCall, [shortRecord.stopped]⟩, .ok ()⟩,
         ⟨.checkpoint (.writeSnapshot []), .ok ()⟩] ∧
      Departure.IsUpdate (.ok [shortRecord]) [shortRecord.stopped] [] [shortRecord.stopped] := by
  obtain ⟨d, path⟩ := path_leaving
  have lived : Lived ([short].map Session.dialogue) (leavingFront ++ [leavingCommit]) := by
    simpa using Lived.life path .none
  have few : ∀ initial, Keeping.volatile.snapshot leavingKept = .ok initial →
      initial.length ≤ 20 := by
    rintro initial same
    cases same
    decide
  have told : leavingFront ++ [leavingCommit] = leavingRead ++
      [⟨.submit ⟨updateCall, [shortRecord.stopped]⟩, .ok ()⟩,
       ⟨.checkpoint (.writeSnapshot []), .ok ()⟩] := by rfl
  obtain ⟨-, -, registry⟩ := (updates_have_their_shape Keeping.volatile.toHolding lived few
    through_leaving).1 leavingRead _ _ _ told
  obtain ⟨top, gone, shape, next⟩ := registry rfl
  have commits := next rfl
  -- the only session was not cut off behind the update
  rcases commits with ⟨early, late, whole, before, behind⟩ | ⟨answer, rest, commits⟩
  · rcases List.singleton_eq_append_iff.mp whole with ⟨rfl, -⟩ | ⟨-, rfl⟩
    · cases before
    · cases behind
  · obtain rfl : [] = top := by
      injection commits with commits
      injection commits with commits
      injection commits with commits
      injection commits
    obtain rfl : [shortRecord.stopped] = gone := shape.split
    exact ⟨told, shape⟩

end Histories

end StakeRelay
