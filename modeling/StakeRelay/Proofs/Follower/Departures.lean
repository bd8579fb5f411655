/-
  StakeRelay.Proofs.Follower.Departures — a departure is reported once.

  A staker is reported to have stopped when it stands in the committed top and not in the
  new one. Wherever a run looks at the committed top, that is the part of the last accepted
  update of the registry that is still staking: the top is committed behind the update that
  tells of it, and where it is not, the run ends. So whoever is reported was told to be
  staking by the last update, and does not stand in the next one unless it has come back.

  Before the first update of a run the committed top is the one that the run found. A
  checkpoint may also lose its top to the cursor that is written behind it; then nobody is
  reported from it, and whoever is staking is met again.

  The updates come in the order of their heights until the heights start again from zero. A
  height below the one that was visited last would be asked for next, so this shows in what is
  asked (`HeightsRise`).

  Main statements:
    * `Departure.Orderly.concat` — the next update keeps the order of those before it;
    * `conducts_commit_reported` — what the registry half of a boundary keeps;
    * `departures_are_reported_once` — the same of a run;
    * `no_staking_between_departures` — behind the greatest height it fails.
-/

import Mathlib.Data.List.Induction
import StakeRelay.Proofs.Follower.Commits
import StakeRelay.Proofs.Number.Words

namespace StakeRelay

open Dialogue

/-! ## §1. Updates one after another -/

namespace Departure

/-- The payload names the staker, as staking or as stopped. -/
def Names (active : Bool) (staker : Address) (payload : List StakerRecord) : Prop :=
  ∃ r ∈ payload, r.workBase = staker ∧ r.isActive = active

section Updates

variable {last top : List StakerRecord} {staker : Address}

/-- A payload names as staking whom its active records name. -/
theorem names_true_iff {payload : List StakerRecord} :
    Names true staker payload ↔ staker ∈ (payload.filter (·.isActive)).map (·.workBase) := by
  constructor
  · rintro ⟨r, member, rfl, active⟩
    exact List.mem_map.mpr ⟨r, List.mem_filter.mpr ⟨member, active⟩, rfl⟩
  · intro member
    obtain ⟨r, among, rfl⟩ := List.mem_map.mp member
    obtain ⟨member, active⟩ := List.mem_filter.mp among
    exact ⟨r, member, rfl, active⟩

/-- Whoever `update last top` names as stopped stood in `last` and not in `top`. -/
theorem of_names_false (active : ∀ r ∈ top, r.isActive = true)
    (names : Names false staker (update last top)) :
    staker ∈ last.map (·.workBase) ∧ staker ∉ top.map (·.workBase) := by
  obtain ⟨r, member, rfl, inactive⟩ := names
  rcases List.mem_append.mp member with stands | departed
  · rw [active r stands] at inactive
    cases inactive
  · exact (of_departed departed).2

/-- No update names a staker both as staking and as stopped, if `top` holds active records only. -/
theorem not_names_both (active : ∀ r ∈ top, r.isActive = true)
    (staking : Names true staker (update last top)) : ¬ Names false staker (update last top) := by
  intro stopped
  rw [names_true_iff, filter_update last active] at staking
  exact (of_names_false active stopped).2 staking

end Updates

/-- The accepted updates of the registry tell of each departure once. `fits` is what the
    order of their heights depends on. -/
structure Orderly (fits : Prop) (told : List (UInt64 × List StakerRecord)) : Prop where
  /-- No update names a staker in both ways. -/
  plain : ∀ u ∈ told, ∀ staker, Names true staker u.2 → ¬ Names false staker u.2
  /-- Between two updates that name a staker as stopped stands one that names it as
      staking. -/
  once : ∀ staker early u mid v late, told = early ++ u :: (mid ++ v :: late) →
    Names false staker u.2 → Names false staker v.2 → ∃ w ∈ mid, Names true staker w.2
  /-- The heights rise. -/
  rising : fits → told.Pairwise fun u v => u.1 < v.1

/-- What a committed top comes from, `first` being the one before the run. -/
inductive Backed (first : Except Failure (List StakerRecord)) :
    List (UInt64 × List StakerRecord) → List StakerRecord → Prop
  /-- No update was accepted yet. -/
  | found {last : List StakerRecord} (same : first = .ok last) : Backed first [] last
  /-- It is the part of the last accepted update that is still staking. -/
  | told (early : List (UInt64 × List StakerRecord)) (height : UInt64)
      (payload : List StakerRecord) :
      Backed first (early ++ [(height, payload)]) (payload.filter (·.isActive))
  /-- It was lost to the cursor, so whoever is staking is met again. -/
  | lost (told : List (UInt64 × List StakerRecord)) : Backed first told []

/-- The staker stood in the top before the run, or an accepted update has named it as
    staking. -/
def Met (first : Except Failure (List StakerRecord)) (told : List (UInt64 × List StakerRecord))
    (staker : Address) : Prop :=
  (∃ last, first = .ok last ∧ staker ∈ last.map (·.workBase)) ∨
    ∃ u ∈ told, Names true staker u.2

section Orderly

variable {fits : Prop} {first : Except Failure (List StakerRecord)}
  {told : List (UInt64 × List StakerRecord)} {last top : List StakerRecord} {height : UInt64}
  {staker : Address}

/-- No updates are `Orderly`. -/
theorem Orderly.nil : Orderly fits [] where
  plain := List.forall_mem_nil _
  once := fun _ early _ _ _ _ whole => by simp at whole
  rising := fun _ => .nil

/-- Whoever stands in a committed top was `Met` as staking. -/
theorem Backed.met (backed : Backed first told last) (stands : staker ∈ last.map (·.workBase)) :
    Met first told staker := by
  cases backed with
  | found same => exact .inl ⟨last, same, stands⟩
  | told early height payload =>
    exact .inr ⟨_, List.mem_append_right _ (List.mem_singleton_self _),
      names_true_iff.mpr stands⟩
  | lost => cases stands

/-- The new `top` is the part of `update last top` that is still staking. -/
theorem Backed.concat (active : ∀ r ∈ top, r.isActive = true) :
    Backed first (told ++ [(height, update last top)]) top := by
  have backed : Backed first _ _ := .told told height (update last top)
  rw [filter_update last active] at backed
  exact backed

/-- In `l ++ [a]` an element `u` is `a` itself or stands in `l`. -/
theorem split_concat {α : Type} {l early rest : List α} {a u : α}
    (whole : l ++ [a] = early ++ u :: rest) :
    (rest = [] ∧ u = a ∧ l = early) ∨ ∃ front, rest = front ++ [a] ∧ l = early ++ u :: front := by
  rcases List.eq_nil_or_concat rest with rfl | ⟨front, w, rfl⟩
  · obtain ⟨rfl, same⟩ := List.append_inj' whole rfl
    exact .inl ⟨rfl, (List.singleton_inj.mp same).symm, rfl⟩
  · rw [List.concat_eq_append, ← List.cons_append, ← List.append_assoc] at whole
    obtain ⟨rfl, same⟩ := List.append_inj' whole rfl
    obtain rfl := List.singleton_inj.mp same
    exact .inr ⟨front, List.concat_eq_append, rfl⟩

/-- Whom `update last top` names as stopped, some update since `u` has named as staking, if `u`
    named him as stopped. -/
theorem Orderly.once_concat (orderly : Orderly fits told) (backed : Backed first told last)
    (active : ∀ r ∈ top, r.isActive = true) {early mid : List (UInt64 × List StakerRecord)}
    {u : UInt64 × List StakerRecord} (whole : told = early ++ u :: mid)
    (before : Names false staker u.2) (now : Names false staker (update last top)) :
    ∃ w ∈ mid, Names true staker w.2 := by
  cases backed with
  | found => simp at whole
  | lost => cases (of_names_false active now).1
  | told front height payload =>
    -- the last update so far has named it as staking, so it is not the one that did not
    have staking : Names true staker payload :=
      names_true_iff.mpr (of_names_false active now).1
    rcases split_concat whole with ⟨-, rfl, -⟩ | ⟨mid, rfl, -⟩
    · have member : (height, payload) ∈ front ++ [(height, payload)] :=
        List.mem_append_right _ (List.mem_singleton_self _)
      exact absurd before (orderly.plain _ member staker staking)
    · exact ⟨_, List.mem_append_right _ (List.mem_singleton_self _), staking⟩

/-- The next update keeps the order, at a height above all before it. -/
theorem Orderly.concat (orderly : Orderly fits told) (backed : Backed first told last)
    (active : ∀ r ∈ top, r.isActive = true) (below : fits → ∀ u ∈ told, u.1 < height) :
    Orderly fits (told ++ [(height, update last top)]) where
  plain := List.forall_mem_append.mpr ⟨orderly.plain,
    List.forall_mem_singleton.mpr fun _ => not_names_both active⟩
  once := by
    intro staker early u mid v late whole before now
    rcases split_concat whole with ⟨none, -⟩ | ⟨front, rest, split⟩
    · simp at none
    rcases split_concat rest.symm with ⟨-, rfl, rfl⟩ | ⟨late, -, rfl⟩
    · -- the second one is the new one
      exact orderly.once_concat backed active split before now
    · exact orderly.once staker early u mid v late split before now
  rising := fun small => List.pairwise_append.mpr ⟨orderly.rising small, List.pairwise_singleton _ _,
    fun u member => List.forall_mem_singleton.mpr (below small u member)⟩

/-- If the heights rise (`fits`), between two heights at which a staker is named as stopped lies
    one at which it is named as staking. -/
theorem Orderly.between (orderly : Orderly fits told) (small : fits)
    {u v : UInt64 × List StakerRecord} (hu : u ∈ told) (hv : v ∈ told) (less : u.1 < v.1)
    (before : Names false staker u.2) (now : Names false staker v.2) :
    ∃ w ∈ told, u.1 < w.1 ∧ w.1 < v.1 ∧ Names true staker w.2 := by
  obtain ⟨early, rest, rfl⟩ := List.append_of_mem hu
  obtain ⟨-, rising, across⟩ := List.pairwise_append.mp (orderly.rising small)
  -- the heights rise, so the greater one stands behind the other
  have behind : v ∈ rest := by
    rcases List.mem_append.mp hv with front | rest
    · exact absurd less (UInt64.lt_asymm (across v front u List.mem_cons_self))
    · rcases List.mem_cons.mp rest with rfl | rest
      · exact absurd less (UInt64.lt_irrefl _)
      · exact rest
  obtain ⟨mid, late, rfl⟩ := List.append_of_mem behind
  obtain ⟨above, rising⟩ := List.pairwise_cons.mp rising
  obtain ⟨w, member, staking⟩ := orderly.once staker early u mid v late rfl before now
  refine ⟨w, ?_, above w (List.mem_append_left _ member),
    (List.pairwise_append.mp rising).2.2 w member v List.mem_cons_self, staking⟩
  exact List.mem_append_right _ (List.mem_cons_of_mem _ (List.mem_append_left _ member))

end Orderly

end Departure

/-- The updates of the registry that were accepted so far. -/
def Chronicle.told (c : Chronicle) : List (UInt64 × List StakerRecord) :=
  acceptedFor .registry c.effects

/-- `told` grows by an accepted update of the registry, and by nothing else. -/
theorem Chronicle.told_after (c : Chronicle) (x : Exchange) :
    (c.after x).told = c.told ++ acceptedFor .registry (c.effectOf x).toList := by
  rw [told, effects_after, acceptedFor_append]
  rfl

/-- A call of the checkpoint tells nothing of the registry and takes place at the same `height`. -/
theorem Chronicle.checkpoint_after (c : Chronicle) (q : CheckpointQuery)
    (reply : Except Failure q.Reply) :
    (c.after ⟨.checkpoint q, reply⟩).told = c.told ∧
      (c.after ⟨.checkpoint q, reply⟩).height = c.height := by
  refine ⟨?_, (c.visit_after rfl).1⟩
  rw [told_after]
  cases q <;> cases reply <;> exact List.append_nil _

/-- No block is asked for below one that was asked for before: behind the greatest height the
    heights do not start again from zero. -/
def HeightsRise (t : List Exchange) : Prop :=
  t.Pairwise fun x y => ∀ f g, x.request = .source (.logs f) → y.request = .source (.logs g) →
    f.last ≤ g.last

/-- The `height` that is visited was asked for, unless it is the zero of the beginning. -/
theorem Chronicle.height_of (t : List Exchange) : (Chronicle.of t).height = 0 ∨
    ∃ x ∈ t, ∃ f, x.request = .source (.logs f) ∧ f.last = (Chronicle.of t).height := by
  induction t using List.reverseRecOn with
  | nil => exact .inl rfl
  | append_singleton t x ih =>
    rw [Chronicle.of_concat]
    cases opens : x.request.opensVisit with
    | true =>
      obtain ⟨f, asks⟩ := Request.exists_logs opens
      obtain ⟨request, reply⟩ := x
      subst asks
      exact .inr ⟨_, List.mem_append_right _ (List.mem_singleton_self _), f, rfl, rfl⟩
    | false =>
      rw [(Chronicle.visit_after _ opens).1]
      rcases ih with zero | ⟨y, member, f, asks, last⟩
      · exact .inl zero
      · exact .inr ⟨y, List.mem_append_left _ member, f, asks, last⟩

/-- So, if the heights rise, the next block that is asked for does not lie below it. -/
theorem HeightsRise.le {pre post : List Exchange} {x : Exchange}
    (rise : HeightsRise (pre ++ x :: post)) {f : LogFilter} (asks : x.request = .source (.logs f)) :
    (Chronicle.of pre).height ≤ f.last := by
  obtain ⟨-, -, across⟩ := List.pairwise_append.mp rise
  rcases Chronicle.height_of pre with zero | ⟨y, member, g, asked, last⟩
  · rw [zero]
    exact UInt64.zero_le
  · rw [← last]
    exact across y member x List.mem_cons_self g f asked asks

/-! ## §2. Steps that tell -/

open Departure (Names Orderly Backed Met)

section Steps

variable {σ : Type} (k : Storing σ) (fits : Prop) (first : Except Failure (List StakerRecord))

/-- The steps in which no block is asked for below the one that is visited, if `fits` says so. -/
abbrev FitSteps : Surroundings (Chronicle × σ) :=
  k.around fun c x => fits → ∀ filter, x.request = .source (.logs filter) →
    c.height ≤ filter.last

/-- What holds of each exchange. -/
structure ReportStep (w : Chronicle × σ) (x : Exchange) (w' : Chronicle × σ) : Prop where
  /-- Whoever is named as stopped was met as staking before. -/
  met : ∀ update, x.request = .submit update → ∀ staker, Names false staker update.payload →
    Met first w.1.told staker
  orderly : Orderly fits w'.1.told

/-- The updates so far are in order, lie below the height `n`, and show what is committed. -/
structure Reported (n : Nat) (w : Chronicle × σ) : Prop where
  orderly : Orderly fits w.1.told
  below : fits → ∀ u ∈ w.1.told, u.1.toNat < n
  backed : ∀ last, k.snapshot w.2 = .ok last → Backed first w.1.told last

/-- The registry half of a boundary. -/
structure Halfway (height : UInt64) (w : Chronicle × σ) : Prop
    extends Reported k fits first height.toNat w where
  place : w.1.height = height
  purpose : w.1.purpose = .registry

/-- The registry half of a boundary with the new top told. -/
structure Announced (height : UInt64) (top : List StakerRecord) (w : Chronicle × σ) : Prop where
  place : w.1.height = height
  orderly : Orderly fits w.1.told
  below : fits → ∀ u ∈ w.1.told, u.1.toNat < height.toNat + 1
  backed : Backed first w.1.told top
  storable : SnapshotForm.Storable top

/-- The registry half of a boundary with the new top written just now. -/
structure Saved (height : UInt64) (top : List StakerRecord) (w : Chronicle × σ) : Prop
    extends Announced fits first height top w where
  behind : ∃ s, k.answers s (.writeSnapshot top) (.ok ()) w.2

/-- The work at a height that is done. -/
structure Passed (height : UInt64) (w : Chronicle × σ) : Prop
    extends Reported k fits first (height.toNat + 1) w where
  place : w.1.height = height

variable {k fits first} {n : Nat} {height : UInt64} {w w' : Chronicle × σ} {x : Exchange}

/-- Updates below `n` lie below `n + 1`. -/
theorem Reported.succ (reported : Reported k fits first n w) : Reported k fits first (n + 1) w :=
  ⟨reported.orderly, fun small u member => Nat.lt_succ_of_lt (reported.below small u member),
    reported.backed⟩

/-- A step that tells nothing of the registry and does not write keeps all three parts of
    `Reported`. -/
theorem Reported.step (reported : Reported k fits first n w) (step : FitSteps k fits w x w')
    (untold : acceptedFor .registry (w.1.effectOf x).toList = [])
    (asked : x.request.writes = false) : Reported k fits first n w' := by
  obtain ⟨⟨-, account⟩, goes⟩ := step
  have same : w'.1.told = w.1.told := by
    rw [account, Chronicle.told_after, untold, List.append_nil]
  refine ⟨?_, ?_, ?_⟩
  · rw [same]
    exact reported.orderly
  · rw [same]
    exact reported.below
  · rw [same, k.snapshot_goes_asked goes asked]
    exact reported.backed

theorem ReportStep.unsent (orderly : Orderly fits w'.1.told)
    (unsent : ∀ update, x.request ≠ .submit update) : ReportStep fits first w x w' :=
  ⟨fun update same => absurd same (unsent update), orderly⟩

/-- A request without an effect does not write the checkpoint, for an accepted write has one
    (`Chronicle.effectOf`). -/
theorem Request.reads_of_quiet {r : Request} (quiet : ∀ c reply, Chronicle.effectOf c ⟨r, reply⟩ = none) :
    r.writes = false := by
  cases r with
  | checkpoint q =>
    cases q with
    | readCursor => rfl
    | readSnapshot => rfl
    | writeCursor h => cases quiet .blank (.ok ())
    | writeSnapshot rs => cases quiet .blank (.ok ())
  | _ => rfl

/-- So a request without an effect is allowed. -/
theorem calm_reported {r : Request} (quiet : ∀ c reply, Chronicle.effectOf c ⟨r, reply⟩ = none) :
    (FitSteps k fits).Calm (ReportStep fits first) (Reported k fits first n) r := by
  intro w reply w' reported step
  have reported' := reported.step step (by rw [quiet]; rfl) (Request.reads_of_quiet quiet)
  refine ⟨.unsent reported'.orderly fun update same => ?_, reported'⟩
  cases (show r = .submit update from same)
  cases quiet .blank (.ok ())

/-- Neither does a `Silent` request change anything in the registry half. -/
theorem calm_halfway {r : Request} (silent : Chronicle.Silent r) :
    (FitSteps k fits).Calm (ReportStep fits first) (Halfway k fits first height) r := by
  intro w reply w' half step
  obtain ⟨allowed, reported⟩ := calm_reported silent.quiet w reply w' half.toReported step
  obtain ⟨⟨-, account⟩, -⟩ := step
  refine ⟨allowed, reported, ?_, ?_⟩
  · rw [account, (Chronicle.visit_after w.1 silent.goesOn).1, half.place]
  · rw [account, silent.purpose_after, half.purpose]

/-- Whoever the offered update names as stopped was `Met`, and if it is accepted the top is
    `Announced`. -/
theorem Halfway.submit {last top : List StakerRecord} {reply : Except Failure Unit}
    (half : Halfway k fits first height w) (held : k.snapshot w.2 = .ok last)
    (ranked : Walk.Ranked top)
    (step : FitSteps k fits w ⟨.submit ⟨updateCall, Departure.update last top⟩, reply⟩ w') :
    ReportStep fits first w ⟨.submit ⟨updateCall, Departure.update last top⟩, reply⟩ w' ∧
      (reply = .ok () → Announced fits first height top w') := by
  obtain ⟨⟨-, account⟩, -⟩ := step
  -- whoever is named as stopped stood in `last`, which was told or was there before the run
  have backed := half.backed last held
  have met : ∀ update, Request.submit ⟨updateCall, Departure.update last top⟩ = .submit update →
      ∀ staker, Names false staker update.payload → Met first w.1.told staker := by
    rintro update same staker names
    injection same with same
    subst same
    exact backed.met (Departure.of_names_false ranked.active names).1
  cases reply with
  | error failure =>
    have same : w'.1.told = w.1.told := by
      rw [account, Chronicle.told_after]
      exact List.append_nil _
    exact ⟨⟨met, same ▸ half.orderly⟩, nofun⟩
  | ok _ =>
    have more : w'.1.told = w.1.told ++ [(height, Departure.update last top)] := by
      rw [account, Chronicle.told_after, Chronicle.effectOf, half.place, half.purpose]
      rfl
    have orderly : Orderly fits w'.1.told := by
      rw [more]
      exact half.orderly.concat backed ranked.active fun small u member =>
        UInt64.lt_iff_toNat_lt.mpr (half.below small u member)
    have place : w'.1.height = height := by
      rw [account, (Chronicle.visit_after w.1 rfl).1, half.place]
    refine ⟨⟨met, orderly⟩, fun _ => ⟨place, orderly, fun small => ?_, ?_, ranked.storable⟩⟩
    · rw [more]
      exact List.forall_mem_append.mpr ⟨fun u member => Nat.lt_succ_of_lt (half.below small u member),
        List.forall_mem_singleton.mpr (Nat.lt_succ_self _)⟩
    · rw [more]
      exact .concat ranked.active

/-- Without anything to tell the committed top stays, and the new one counts as `Announced`. -/
theorem Halfway.skip {last top : List StakerRecord} (half : Halfway k fits first height w)
    (held : k.snapshot w.2 = .ok last) (ranked : Walk.Ranked top)
    (none : Departure.update last top = []) : Announced fits first height top w := by
  obtain ⟨rfl, rfl⟩ := Departure.update_eq_nil none
  exact ⟨half.place, half.orderly, half.toReported.succ.below, half.backed [] held,
    ranked.storable⟩

/-- The told top is written, and is `Saved` if that is accepted. -/
theorem Announced.save {top : List StakerRecord} {reply : Except Failure Unit}
    (announced : Announced fits first height top w)
    (step : FitSteps k fits w ⟨.checkpoint (.writeSnapshot top), reply⟩ w') :
    ReportStep fits first w ⟨.checkpoint (.writeSnapshot top), reply⟩ w' ∧
      (reply = .ok () → Saved k fits first height top w') := by
  obtain ⟨⟨-, account⟩, goes⟩ := step
  obtain ⟨same, place⟩ := w.1.checkpoint_after (.writeSnapshot top) reply
  rw [← account] at same place
  refine ⟨.unsent (same ▸ announced.orderly) nofun, ?_⟩
  rintro rfl
  exact ⟨⟨place.trans announced.place, same ▸ announced.orderly, same ▸ announced.below,
    same ▸ announced.backed, announced.storable⟩, w.2, goes⟩

/-- The cursor is written behind it, which leaves the top or loses it, and the height is
    `Passed`. -/
theorem Saved.mark {top : List StakerRecord} {cursor : UInt64} {reply : Except Failure Unit}
    (saved : Saved k fits first height top w)
    (step : FitSteps k fits w ⟨.checkpoint (.writeCursor cursor), reply⟩ w') :
    ReportStep fits first w ⟨.checkpoint (.writeCursor cursor), reply⟩ w' ∧
      (reply = .ok () → Passed k fits first height w') := by
  obtain ⟨⟨-, account⟩, goes⟩ := step
  obtain ⟨same, place⟩ := w.1.checkpoint_after (.writeCursor cursor) reply
  rw [← account] at same place
  refine ⟨.unsent (same ▸ saved.orderly) nofun, ?_⟩
  rintro rfl
  obtain ⟨s, wrote⟩ := saved.behind
  refine ⟨⟨same ▸ saved.orderly, same ▸ saved.below, fun last held => ?_⟩,
    place.trans saved.place⟩
  rw [same]
  rcases k.snapshot_of_commit saved.storable wrote goes held with rfl | rfl
  · exact saved.backed
  · exact .lost _

/-! ## §3. The work at a height -/

/-- The registry half of a boundary, `commitRegistry`, tells of each departure once, and commits
    what it told. -/
theorem conducts_commit_reported {schedule : Schedule} (reported : Reported k fits first height.toNat w)
    (place : w.1.height = height) :
    (schedule.commitRegistry height).run.Conducts (FitSteps k fits) (ReportStep fits first)
      (fun outcome w =>
        match outcome with
        | .ok _ => Passed k fits first height w
        | .error failure => failure.isTransient = true → Reported k fits first height.toNat w)
      w := by
  refine Schedule.conducts_commitRegistry (R := Walk.Ranked)
    (A := fun _ => Halfway k fits first height) (B := Halfway k fits first height)
    (C := fun top last w =>
      Halfway k fits first height w ∧ k.snapshot w.2 = .ok last ∧ Walk.Ranked top)
    (D := fun top _ => Announced fits first height top)
    (E := fun top _ => Saved k fits first height top)
    ?size ?visited ?read ?skip ?submit ?saveTop ?saveCursor
  case size =>
    intro reply w' step
    obtain ⟨allowed, reported'⟩ := calm_reported (fun _ _ => rfl) w reply w' reported step
    refine ⟨allowed, ?_⟩
    cases reply with
    | error failure => exact fun _ => reported'
    | ok size =>
      obtain ⟨⟨-, account⟩, -⟩ := step
      refine ⟨reported', ?_, ?_⟩
      · rw [account]
        exact place
      · rw [account]
        rfl
  case visited =>
    exact fun size w half =>
      Walk.conducts_ranked _ size (fun r asks => calm_halfway asks.silent) half
  case read =>
    intro top w reply w' ranked half step
    obtain ⟨allowed, half'⟩ := calm_halfway Chronicle.silent_readSnapshot w reply w' half step
    refine ⟨allowed, ?_⟩
    cases reply with
    | error failure => exact fun _ => half'.toReported
    | ok last =>
      obtain ⟨-, goes⟩ := step
      refine ⟨half', ?_, ranked⟩
      rw [k.snapshot_goes_asked goes rfl]
      exact k.snapshot_of_read goes
  case skip => exact fun top last w none given => given.1.skip given.2.1 given.2.2 none
  case submit =>
    intro top last w reply w' _ given step
    obtain ⟨half, held, ranked⟩ := given
    obtain ⟨allowed, announced⟩ := half.submit held ranked step
    refine ⟨allowed, ?_⟩
    cases reply with
    | error failure => exact Failure.fatal_elim (Schedule.asSubmission_fatal failure)
    | ok _ => exact announced rfl
  case saveTop =>
    intro top last w reply w' _ announced step
    obtain ⟨allowed, saved⟩ := announced.save step
    refine ⟨allowed, ?_⟩
    cases reply with
    | error failure =>
      -- a top that was told and is not committed ends the run
      obtain ⟨-, goes⟩ := step
      exact Failure.fatal_elim (k.fatal goes)
    | ok _ => exact saved rfl
  case saveCursor =>
    intro top last w reply w' saved step
    obtain ⟨allowed, passed⟩ := saved.mark step
    refine ⟨allowed, ?_⟩
    cases reply with
    | error failure =>
      obtain ⟨-, goes⟩ := step
      exact Failure.fatal_elim (k.fatal goes)
    | ok _ => exact passed rfl

/-- The deposits of an epoch name nobody as stopped. -/
def OpenEpoch.Staking (e : OpenEpoch) : Prop :=
  ∀ r ∈ e.records, r.isActive = true

theorem OpenEpoch.Staking.absorb {e : OpenEpoch} (staking : e.Staking) (height : UInt64)
    (events : List DepositEvent) :
    (e.absorb height (events.map DepositEvent.toRecord)).Staking :=
  e.forall_absorb height events staking fun _ _ => rfl

/-- The deposit half of a boundary tells nothing of the registry and keeps `Reported`. -/
theorem conducts_flush_reported {e : OpenEpoch} (staking : e.Staking)
    (reported : Reported k fits first n w) (place : w.1.height = height)
    (purpose : w.1.purpose = .deposits) :
    (Schedule.flush e).Conducts (FitSteps k fits) (ReportStep fits first)
      (fun done w => done.2.Staking ∧ Reported k fits first n w ∧ w.1.height = height) w := by
  refine Schedule.conducts_flush (fun _ => ⟨staking, reported, place⟩) fun _ reply w' step => ?_
  -- the registry was not asked for since the scan, so the update is for the deposits
  have untold : acceptedFor .registry (w.1.effectOf
      ⟨.submit ⟨updateCall, Ranking.top e.records⟩, reply⟩).toList = [] := by
    cases reply with
    | error failure => rfl
    | ok _ =>
      rw [Chronicle.effectOf, purpose]
      rfl
  have reported' := reported.step step untold rfl
  have met : ∀ update, Request.submit ⟨updateCall, Ranking.top e.records⟩ = .submit update →
      ∀ staker, Names false staker update.payload → Met first w.1.told staker := by
    rintro update same staker ⟨r, member, -, stopped⟩
    injection same with same
    subst same
    rw [staking r (Ranking.mem_of_mem_top member)] at stopped
    cases stopped
  have place' : w'.1.height = height := by
    obtain ⟨⟨-, account⟩, -⟩ := step
    rw [account, (Chronicle.visit_after w.1 rfl).1, place]
  refine ⟨⟨met, reported'.orderly⟩, ?_⟩
  cases reply with
  | error failure => exact ⟨staking, reported', place'⟩
  | ok _ => exact ⟨List.forall_mem_nil _, reported', place'⟩

/-- What holds at a loop top, with the open epoch and the height: the updates lie below the
    height, unless it has fallen below the one that is visited. -/
def Reporting (k : Storing σ) (fits : Prop) (first : Except Failure (List StakerRecord))
    (e : OpenEpoch) (h : UInt64) (w : Chronicle × σ) : Prop :=
  e.Staking ∧ ∃ n, Reported k fits first n w ∧ (n = h.toNat ∨ h < w.1.height)

/-- At a loop top, requests without an effect that are no log query keep `Reporting`. -/
theorem calm_reporting {e : OpenEpoch} {h : UInt64} {r : Request}
    (quiet : ∀ c reply, Chronicle.effectOf c ⟨r, reply⟩ = none) (goesOn : r.opensVisit = false) :
    (FitSteps k fits).Calm (ReportStep fits first) (Reporting k fits first e h) r := by
  rintro w reply w' ⟨staking, n, reported, place⟩ step
  obtain ⟨allowed, reported'⟩ := calm_reported quiet w reply w' reported step
  obtain ⟨⟨-, account⟩, -⟩ := step
  have same : w'.1.height = w.1.height := by
    rw [account]
    exact (Chronicle.visit_after w.1 goesOn).1
  exact ⟨allowed, staking, n, reported', same ▸ place⟩

/-- A height that is done leads to the loop top of the next one, which is zero behind the greatest
    word. -/
theorem Passed.reporting {e : OpenEpoch} (passed : Passed k fits first height w)
    (staking : e.Staking) : Reporting k fits first e (height + 1) w := by
  refine ⟨staking, _, passed.toReported, ?_⟩
  by_cases small : height.toNat < 2 ^ 64 - 1
  · exact .inl (Words.toNat_succ small).symm
  · -- the height has started again from zero
    right
    rw [passed.place, UInt64.lt_iff_toNat_lt, UInt64.toNat_add]
    have := height.toNat_lt
    show (height.toNat + 1) % 2 ^ 64 < height.toNat
    omega

/-- The work at a height `h` leads from the loop top there to the one at `h + 1`, or leaves it
    at `h` with a failure that may pass. -/
theorem conducts_work_reported {scanner : Scanner} {schedule : Schedule} {h : UInt64}
    {e : OpenEpoch} (reporting : Reporting k fits first e h w) :
    (Follower.work scanner schedule h e).Conducts (FitSteps k fits) (ReportStep fits first)
      (fun done w =>
        match done.1 with
        | .ok _ => Reporting k fits first done.2 (h + 1) w
        | .error failure => failure.isTransient = true → Reporting k fits first done.2 h w)
      w := by
  obtain ⟨staking, n, before, fallen⟩ := reporting
  refine Follower.conducts_work fun reply w' step => ?_
  -- a height that has fallen is not asked for
  have reported : Reported k fits first h.toNat w := by
    refine ⟨before.orderly, fun fit => ?_, before.backed⟩
    obtain ⟨⟨admitted, -⟩, -⟩ := step
    rcases fallen with rfl | fallen
    · exact before.below fit
    · exact absurd fallen (UInt64.not_lt.mpr (admitted fit _ rfl))
  obtain ⟨allowed, reported'⟩ := calm_reported (fun _ _ => rfl) w reply w' reported step
  refine ⟨allowed, ?_⟩
  obtain ⟨⟨-, account⟩, -⟩ := step
  have place : w'.1.height = h := by rw [account]; rfl
  have stays {e : OpenEpoch} {w : Chronicle × σ} (staking : e.Staking)
      (reported : Reported k fits first h.toNat w) : Reporting k fits first e h w :=
    ⟨staking, _, reported, .inl rfl⟩
  cases reply with
  | error failure => exact fun _ => stays staking reported'
  | ok logs =>
    simp only
    cases Scanner.decodeFrom h 0 logs with
    | error failure => exact fun _ => stays staking reported'
    | ok events =>
      have staking' := staking.absorb h events
      by_cases boundary : schedule.isBoundary h = true
      · simp only [if_pos boundary]
        have purpose : w'.1.purpose = .deposits := by rw [account]; rfl
        refine Schedule.conducts_settle
          ((conducts_flush_reported staking' reported' place purpose).mono ?_)
        rintro ⟨flushed, e'⟩ w'' ⟨staking'', reported'', place'⟩
        cases flushed with
        | error failure => exact fun _ => stays staking'' reported''
        | ok n =>
          refine (conducts_commit_reported reported'' place').mono fun outcome w₃ given => ?_
          cases outcome with
          | error failure => exact fun passing => stays staking'' (given passing)
          | ok counts => exact given.reporting staking''
      · simp only [if_neg boundary]
        exact Passed.reporting ⟨reported'.succ, place⟩ staking'

end Steps

/-! ## §4. Runs -/

section Runs

variable {σ : Type} (k : Storing σ)

/-- A run of a new follower keeps `ReportStep` from beginning to end. -/
theorem conducts_run_reported (fits : Prop) (settings : FollowerSettings) (scanner : Scanner)
    (schedule : Schedule) (n : Nat) (s : σ) :
    (Follower.run n (.ofSettings settings scanner schedule)).Conducts (FitSteps k fits)
      (ReportStep fits (k.snapshot s)) (fun _ _ => True) (.blank, s) := by
  refine Follower.conducts_run (Follower.conducts_turns
    (J := Reporting k fits (k.snapshot s)) ?asked ?polled ?paused ?worked n _ rfl rfl _ ?start)
  case asked => exact fun e h => calm_reporting (fun _ _ => rfl) rfl
  case polled => exact fun e h => calm_reporting (fun _ _ => rfl) rfl
  case paused => exact fun e h ms => calm_reporting (fun _ _ => rfl) rfl
  case worked => exact fun e h w reporting => conducts_work_reported reporting
  case start =>
    exact ⟨List.forall_mem_nil _, _,
      ⟨.nil, fun _ => List.forall_mem_nil _, fun _ held => .found held⟩, .inl rfl⟩

/-- A departure is reported once in a run of a new follower, whatever the partners do and
    wherever the run is cut off, over any checkpoint that is `Storing`: the one in memory, and two
    files under any two paths (`Storing.durable`).
      * Between two accepted updates of the registry that name a staker as stopped stands one
        that names it as staking.
      * So there is one at a height between theirs, as long as the heights do not start again from
        zero behind `2 ^ 64 - 1` (`HeightsRise`).
      * An update that names a staker as stopped, accepted or not, is offered only if the
        staker stood in the top that was committed before the run, or was named as staking by
        an update of the registry that was accepted before in the run. -/
theorem departures_are_reported_once {settings : FollowerSettings} {scanner : Scanner}
    {schedule : Schedule} {n : Nat} {t : List Exchange} {d : Dialogue Follower.Run} {s₀ s : σ}
    (path : Path (Follower.run n (.ofSettings settings scanner schedule)) t d)
    (through : k.goes.Through s₀ t s) :
    let told := acceptedFor .registry (effects t)
    (∀ staker early u mid v late, told = early ++ u :: (mid ++ v :: late) →
      Names false staker u.2 → Names false staker v.2 → ∃ w ∈ mid, Names true staker w.2) ∧
    (HeightsRise t →
      ∀ staker, ∀ u ∈ told, ∀ v ∈ told, u.1 < v.1 →
        Names false staker u.2 → Names false staker v.2 →
        ∃ w ∈ told, u.1 < w.1 ∧ w.1 < v.1 ∧ Names true staker w.2) ∧
    ∀ pre update reply post, t = pre ++ ⟨.submit update, reply⟩ :: post →
      ∀ staker, Names false staker update.payload →
        (∃ last, k.snapshot s₀ = .ok last ∧ staker ∈ last.map (·.workBase)) ∨
          ∃ u ∈ acceptedFor .registry (effects pre), Names true staker u.2 := by
  intro told
  have run := conducts_run_reported k (HeightsRise t) settings scanner schedule n s₀
  have admitted : ∀ pre x post, t = pre ++ x :: post → HeightsRise t →
      ∀ filter, x.request = .source (.logs filter) → (Chronicle.of pre).height ≤ filter.last := by
    rintro pre x post rfl rise filter asks
    exact rise.le asks
  have orderly : Orderly (HeightsRise t) told :=
    ((run.path path (k.through_around through admitted)).1).keeps
      (I := fun w => Orderly (HeightsRise t) w.1.told) (fun _ _ _ _ step => step.orderly) .nil
  refine ⟨orderly.once, fun rise staker u hu v hv => orderly.between rise hu hv, ?_⟩
  -- the step in which the update is offered
  intro pre update reply post whole staker names
  rw [whole] at path through
  obtain ⟨s₁, before, rest⟩ := through.split
  cases rest with
  | step goes _ =>
    have around : (FitSteps k (HeightsRise t)).Through (.blank, s₀) pre (.of pre, s₁) :=
      k.through_around before fun front x back split =>
        admitted front x (back ++ ⟨.submit update, reply⟩ :: post) (by rw [whole, split]; simp)
    have step : FitSteps k (HeightsRise t) (Chronicle.of pre, s₁) ⟨.submit update, reply⟩ (_, _) :=
      ⟨⟨admitted pre _ post whole, rfl⟩, goes⟩
    exact (run.allowed path around step).met update rfl staker names

namespace Session

/-- A round that finds the registry empty and the staker in the committed top. -/
def goneRound (head height : UInt64) : List Exchange :=
  emptyScan head height ++
    [⟨.source .registrySize, .ok (0 : UInt64)⟩,
     ⟨.checkpoint .readSnapshot, .ok shortTop⟩,
     ⟨.submit ⟨updateCall, Departure.update shortTop (Ranking.top [])⟩, .ok ()⟩,
     ⟨.checkpoint (.writeSnapshot (Ranking.top [])), .ok ()⟩,
     ⟨.checkpoint (.writeCursor (Saturating.add height 1)), .ok ()⟩]

/-- A round that finds the staker in the registry and the committed top empty. -/
def backRound (head height : UInt64) : List Exchange :=
  emptyScan head height ++
    [⟨.source .registrySize, .ok (1 : UInt64)⟩,
     ⟨.source (.stakerAt 0), .ok shortStaker⟩,
     ⟨.source (.stakerInfo shortStaker), .ok shortAmount⟩,
     ⟨.checkpoint .readSnapshot, .ok (Ranking.top [])⟩,
     ⟨.submit ⟨updateCall, Departure.update (Ranking.top []) shortTop⟩, .ok ()⟩,
     ⟨.checkpoint (.writeSnapshot shortTop), .ok ()⟩,
     ⟨.checkpoint (.writeCursor (Saturating.add height 1)), .ok ()⟩]

/-- The checkpoint in memory that holds a top. -/
def holding (top : List StakerRecord) (cursor : Option UInt64) (writes : List CheckpointWrite) :
    VolatileCheckpoint := ⟨cursor, top, writes, false, false⟩

theorem through_gone (head height : UInt64) (cursor : Option UInt64) (writes : List CheckpointWrite) :
    Keeping.volatile.goes.Through (holding shortTop cursor writes) (goneRound head height)
      (holding (Ranking.top []) (some (Saturating.add height 1))
        (writes ++ [.snapshot (Ranking.top []).length] ++ [.cursor (Saturating.add height 1)])) := by
  iterate 4 refine .step rfl ?_
  refine .step (.inl rfl) ?_
  refine .step rfl ?_
  iterate 2 refine .step (.inl rfl) ?_
  exact .here _

theorem through_back (head height : UInt64) (cursor : Option UInt64) (writes : List CheckpointWrite) :
    Keeping.volatile.goes.Through (holding (Ranking.top []) cursor writes) (backRound head height)
      (holding shortTop (some (Saturating.add height 1))
        (writes ++ [.snapshot shortTop.length] ++ [.cursor (Saturating.add height 1)])) := by
  iterate 6 refine .step rfl ?_
  refine .step (.inl rfl) ?_
  refine .step rfl ?_
  iterate 2 refine .step (.inl rfl) ?_
  exact .here _

/-- The staker leaves, comes back and leaves again, at the given heights. -/
def leftTwice (head first second third : UInt64) : List Exchange :=
  goneRound head first ++ backRound head second ++ goneRound head third

/-- The checkpoint in memory goes through `leftTwice`. -/
theorem through_leftTwice (head first second third : UInt64) :
    ∃ c, Keeping.volatile.goes.Through (holding shortTop none [])
      (leftTwice head first second third) c :=
  ⟨_, ((through_gone head first none []).append (through_back head second _ _)).append
    (through_gone head third _ _)⟩

/-- The three updates that are told in it, each at its height. -/
theorem told_leftTwice (head first second third : UInt64) :
    acceptedFor .registry (effects (leftTwice head first second third)) =
      [(first, Departure.update shortTop (Ranking.top [])),
       (second, Departure.update (Ranking.top []) shortTop),
       (third, Departure.update shortTop (Ranking.top []))] := by rfl

theorem path_leftTwice : ∃ d, Path (Follower.run 3 shortStart) (leftTwice 5 0 1 2) d := by
  apply Exists.intro
  with_unfolding_all
    iterate 26 apply Path.step
    apply Path.here

theorem heightsRise_leftTwice : HeightsRise (leftTwice 5 0 1 2) := by
  simp [HeightsRise, leftTwice, goneRound, backRound, emptyScan, LogFilter.ofBlock]

theorem names_left : Names false shortStaker (Departure.update shortTop (Ranking.top [])) := by
  have stood : shortRecord ∈ shortTop := by
    simp [shortTop, Ranking.top, Ranking.best, Ranking.ranked, Ranking.topSize]
  have gone : shortRecord.workBase ∉ (Ranking.top []).map (·.workBase) := by
    simp [Ranking.top, Ranking.best, Ranking.ranked]
  obtain ⟨r, departed, named, stopped⟩ := Departure.departed_covers stood gone
  exact ⟨r, List.mem_append_right _ departed, named, stopped⟩

end Session

open Session in
/-- A staker that leaves at the heights `0` and `2` is told to be staking between them. -/
theorem staking_between_departures :
    ∃ w ∈ acceptedFor .registry (effects (leftTwice 5 0 1 2)), 0 < w.1 ∧ w.1 < 2 ∧
      Names true shortStaker w.2 := by
  obtain ⟨d, path⟩ := path_leftTwice
  obtain ⟨c, through⟩ := through_leftTwice 5 0 1 2
  refine (departures_are_reported_once Keeping.volatile.toStoring path through).2.1
    heightsRise_leftTwice shortStaker (0, Departure.update shortTop (Ranking.top [])) ?_
    (2, Departure.update shortTop (Ranking.top [])) ?_ (by decide) names_left names_left
  all_goals
    rw [told_leftTwice]
    simp

namespace Session

theorem path_leftTwice_last :
    ∃ d, Path (Follower.run 3 lastStart) (leftTwice lastHeight lastHeight 0 1) d := by
  apply Exists.intro
  with_unfolding_all
    iterate 26 apply Path.step
    apply Path.here

end Session

open Session in
/-- Behind the greatest height the heights start again from zero. A staker that leaves at
    `lastHeight` and at the height `1` is told to be staking at the height `0`, which is not
    between them. -/
theorem no_staking_between_departures :
    (∃ d, Path (Follower.run 3 lastStart) (leftTwice lastHeight lastHeight 0 1) d) ∧
      (∃ c, Keeping.volatile.goes.Through (holding shortTop none [])
        (leftTwice lastHeight lastHeight 0 1) c) ∧
      let told := acceptedFor .registry (effects (leftTwice lastHeight lastHeight 0 1))
      ∃ u ∈ told, ∃ v ∈ told, u.1 < v.1 ∧
        Names false shortStaker u.2 ∧ Names false shortStaker v.2 ∧
        ¬ ∃ w ∈ told, u.1 < w.1 ∧ w.1 < v.1 ∧ Names true shortStaker w.2 := by
  refine ⟨path_leftTwice_last, through_leftTwice _ _ _ _, ?_⟩
  rw [told_leftTwice]
  refine ⟨(1, Departure.update shortTop (Ranking.top [])), by simp,
    (lastHeight, Departure.update shortTop (Ranking.top [])), by simp, by decide, names_left,
    names_left, ?_⟩
  rintro ⟨w, member, above, below, -⟩
  -- no update stands at a height between them
  simp only [List.mem_cons, List.not_mem_nil, or_false] at member
  rcases member with rfl | rfl | rfl
  · exact UInt64.lt_irrefl _ below
  · exact absurd above (by decide)
  · exact UInt64.lt_irrefl _ above

end Runs

end StakeRelay
