/-
  StakeRelay.Proofs.Staker.Standing — who is reported while still registered.

  A walk leaves out the entries of the registry that it cannot read. So the top that it
  finds is that of a part of the registry, and a staker of the committed top can be missing
  from it for two reasons: it is no longer among the first of the registry, or its own entry
  could not be read. Entries of other stakers that cannot be read do not matter to it: they
  can only let it move up.

  Main statements:
    * `Walk.visit_answered` — what a walk finds is a function of the answers;
    * `Registry.Holds.mem_records` — a staker whose entry is read is found;
    * `standing_staker_is_reported_iff_unread` — a staker that stands in the committed top
      and at the top of the registry is reported as stopped just if its entry was not read;
    * `unread_staker_is_reported` — which does happen.
-/

import Mathlib.Data.List.Nodup
import StakeRelay.Proofs.Follower.Offers
import StakeRelay.Proofs.Follower.Session
import StakeRelay.Proofs.Staker.Ranking
import StakeRelay.Proofs.Staker.Registry

namespace StakeRelay

open Dialogue

/-! ## §1. What a walk finds -/

/-- The exchange is answered by the registry, if it is one with the registry. -/
def Registry.Answers (r : Registry) : Exchange → Prop
  | ⟨.source .registrySize, reply⟩ => reply = .ok r.size
  | ⟨.source (.stakerAt index), reply⟩ => reply = r.stakerAt index
  | ⟨.source (.stakerInfo staker), reply⟩ => reply = r.stakerInfo staker
  | _ => True

namespace Walk

variable {r : Registry} {w : Walk} {index : UInt64} {t : List Exchange}

theorem readEntry_answered {outcome : Except Failure StakerRecord}
    (path : Path (readEntry index).run t (.done outcome)) (answers : ∀ x ∈ t, r.Answers x) :
    outcome.toOption = r.record? index := by
  unfold Registry.record?
  rcases path.ends_attempt with ⟨failure, asked, rfl⟩ | ⟨staker, u, v, rfl, asked, path⟩
  · have known : .error failure = r.stakerAt index :=
      answers ⟨.source (.stakerAt index), .error failure⟩ (by simp [asked.ends_request])
    rw [← known]
    rfl
  have known : .ok staker = r.stakerAt index :=
    answers ⟨.source (.stakerAt index), .ok staker⟩ (by simp [asked.ends_request])
  rw [← known]
  rcases path.ends_attempt with ⟨failure, asked, rfl⟩ | ⟨balance, v₁, v₂, rfl, asked, path⟩
  · have known : .error failure = r.stakerInfo staker :=
      answers ⟨.source (.stakerInfo staker), .error failure⟩ (by simp [asked.ends_request])
    simp only [← known]
    rfl
  · have known : .ok balance = r.stakerInfo staker :=
      answers ⟨.source (.stakerInfo staker), .ok balance⟩ (by simp [asked.ends_request])
    obtain ⟨-, rfl⟩ := Path.ends_done path
    simp only [← known]
    rfl

/-- What a walk finds is a function of the answers, `recordsFrom`. -/
theorem visit_answered {found : List StakerRecord}
    (path : Path (w.visit r.size index) t (.done found)) (answers : ∀ x ∈ t, r.Answers x) :
    found = r.recordsFrom w index := by
  induction index using Walk.visit.induct w r.size generalizing t found with
  | case1 index below ih =>
    rw [visit, dif_pos below] at path
    rw [Registry.recordsFrom, indices, dif_pos below, List.filterMap_cons]
    obtain ⟨outcome, u, v, rfl, entry, path⟩ := Path.ends_bind path
    obtain ⟨rest, v₁, v₂, rfl, later, last⟩ := Path.ends_bind path
    have known := readEntry_answered entry fun x member => answers x (List.mem_append_left _ member)
    have later := ih later fun x member =>
      answers x (List.mem_append_right _ (List.mem_append_left _ member))
    rw [← known]
    cases outcome with
    | error failure =>
      obtain ⟨-, rfl⟩ := Path.ends_done last
      exact later
    | ok record =>
      obtain ⟨-, rfl⟩ := Path.ends_done last
      exact congrArg (record :: ·) later
  | case2 index above =>
    rw [visit, dif_neg above] at path
    rw [Registry.recordsFrom, indices, dif_neg above]
    exact (Path.ends_done path).2

end Walk

/-! ## §2. A registry that may be read in part -/

/-- The records of all entries. -/
def Registry.rolled (entries : List (Address × Amount)) : List StakerRecord :=
  entries.map fun e => StakerRecord.ofAddress e.1 e.2

/-- The answers are those of a registry with the given entries, each of which may be lost:
    the network may fail to tell the staker of it, or what the staker has locked. -/
structure Registry.Holds (r : Registry) (entries : List (Address × Amount)) : Prop where
  distinct : (entries.map Prod.fst).Nodup
  size : r.size.toNat = entries.length
  stakerAt : ∀ i e, entries[i.toNat]? = some e →
    r.stakerAt i = .ok e.1 ∨ ∃ fault, r.stakerAt i = .error (.network fault)
  stakerInfo : ∀ e ∈ entries,
    r.stakerInfo e.1 = .ok e.2 ∨ ∃ fault, r.stakerInfo e.1 = .error (.network fault)

/-- The network fails to tell the entry. -/
def Registry.Loses (r : Registry) (i : UInt64) (e : Address × Amount) : Prop :=
  (∃ fault, r.stakerAt i = .error (.network fault)) ∨
    ∃ fault, r.stakerInfo e.1 = .error (.network fault)

namespace Registry.Holds

variable {r : Registry} {entries : List (Address × Amount)} {w : Walk} {i index : UInt64}
  {e : Address × Amount}

theorem nodup_rolled (holds : r.Holds entries) : (Registry.rolled entries).Nodup := by
  refine List.Nodup.of_map StakerRecord.workBase ?_
  rw [Registry.rolled, List.map_map]
  exact holds.distinct

/-- An entry that is told gives its record, and one that is lost (`Loses`) gives none. -/
theorem record?_eq (holds : r.Holds entries) (registered : entries[i.toNat]? = some e) :
    (r.Loses i e ∧ r.record? i = none) ∨
      (¬ r.Loses i e ∧ r.record? i = some (.ofAddress e.1 e.2)) := by
  unfold Registry.record? Registry.Loses
  rcases holds.stakerAt i e registered with told | ⟨fault, lost⟩
  · rcases holds.stakerInfo e (List.mem_of_getElem? registered) with told' | ⟨fault, lost⟩
    · exact .inr (by simp [told, told'])
    · exact .inl (by simp [told, lost])
  · exact .inl (by simp [lost])

/-- With stride one the next index is the one behind. -/
theorem toNat_next (every : w.stride = 1) (below : index < r.size) :
    (Saturating.add index w.stride).toNat = index.toNat + 1 := by
  have := r.size.toNat_lt
  rw [UInt64.lt_iff_toNat_lt] at below
  rw [every, Saturating.toNat_add]
  show min (index.toNat + 1) _ = _
  omega

/-- With stride one a walk leads to every entry. -/
theorem mem_indices (every : w.stride = 1) :
    i ∈ w.indices r.size index ↔ index ≤ i ∧ i < r.size := by
  induction index using Walk.indices.induct w r.size with
  | case1 index below ih =>
    rw [Walk.indices, dif_pos below, List.mem_cons, ih, ← UInt64.toNat_inj,
      UInt64.le_iff_toNat_le, UInt64.le_iff_toNat_le, toNat_next every below]
    rw [UInt64.lt_iff_toNat_lt] at below ⊢
    omega
  | case2 index above =>
    rw [Walk.indices, dif_neg above]
    rw [UInt64.lt_iff_toNat_lt] at above
    simp only [List.not_mem_nil, UInt64.le_iff_toNat_le, UInt64.lt_iff_toNat_lt, false_iff]
    omega

/-- A walk finds a part of the records, `Registry.rolled`. -/
theorem records_sublist (holds : r.Holds entries) (every : w.stride = 1) :
    (r.recordsFrom w index).Sublist (Registry.rolled (entries.drop index.toNat)) := by
  unfold Registry.recordsFrom
  induction index using Walk.indices.induct w r.size with
  | case1 index below ih =>
    rw [toNat_next every below] at ih
    have inside : index.toNat < entries.length := holds.size ▸ UInt64.lt_iff_toNat_lt.mp below
    rw [Walk.indices, dif_pos below, List.drop_eq_getElem_cons inside, List.filterMap_cons]
    have registered : entries[index.toNat]? = some entries[index.toNat] :=
      List.getElem?_eq_getElem inside
    rcases holds.record?_eq registered with ⟨-, lost⟩ | ⟨-, told⟩
    · rw [lost]
      exact ih.trans (List.sublist_cons_self _ _)
    · rw [told]
      exact ih.cons_cons _
  | case2 index above =>
    rw [Walk.indices, dif_neg above]
    exact List.nil_sublist _

/-- A staker whose entry is told is found, and no other. -/
theorem mem_records (holds : r.Holds entries) (every : w.stride = 1)
    (registered : entries[i.toNat]? = some e) :
    (¬ r.Loses i e → .ofAddress e.1 e.2 ∈ r.recordsFrom w 0) ∧
      (r.Loses i e → e.1 ∉ (r.recordsFrom w 0).map (·.workBase)) := by
  have below : i < r.size := by
    rw [UInt64.lt_iff_toNat_lt, holds.size]
    exact (List.getElem?_eq_some_iff.mp registered).1
  constructor
  · intro told
    rcases holds.record?_eq registered with ⟨lost, -⟩ | ⟨-, record⟩
    · exact absurd lost told
    · exact List.mem_filterMap.mpr ⟨i, (mem_indices every).mpr ⟨UInt64.zero_le, below⟩, record⟩
  · intro lost member
    obtain ⟨q, found, named⟩ := List.mem_map.mp member
    obtain ⟨j, among, record⟩ := List.mem_filterMap.mp found
    have inside : j.toNat < entries.length :=
      holds.size ▸ UInt64.lt_iff_toNat_lt.mp ((mem_indices every).mp among).2
    have registered' : entries[j.toNat]? = some entries[j.toNat] := List.getElem?_eq_getElem inside
    rcases holds.record?_eq registered' with ⟨-, lost'⟩ | ⟨told, record'⟩
    · rw [record] at lost'
      cases lost'
    -- the address stands at one index only
    obtain rfl := Option.some.inj (record.symm.trans record')
    have same : j.toNat = i.toNat := by
      refine (List.getElem?_inj (by simpa using inside) holds.distinct).mp ?_
      rw [List.getElem?_map, List.getElem?_map, registered, registered']
      exact congrArg some named
    obtain rfl := UInt64.toNat_inj.mp same
    rw [registered] at registered'
    exact told (Option.some.inj registered' ▸ lost)

end Registry.Holds

/-! ## §3. The update of a boundary -/

/-- Behind the committed top the update tells of the change since then. -/
theorem Schedule.update_of_path {s : Schedule} {height : UInt64} {v : List Exchange}
    {last : List StakerRecord} {update : Update} {reply : Except Failure Unit}
    {d : Dialogue (Except Failure (Nat × Nat))}
    (path : Path (s.commitRegistry height).run
      (v ++ [⟨.checkpoint .readSnapshot, .ok last⟩, ⟨.submit update, reply⟩]) d) :
    ∃ top, s.walk.Reads top v ∧ update.payload = Departure.update last top := by
  obtain ⟨rest, outcome, ends⟩ := exists_end d
  have offers := (commitPath_of_path (path.append ends)).offers
    (v ++ [⟨.checkpoint .readSnapshot, .ok last⟩]) update reply rest (by simp)
  obtain ⟨⟨last', top, v', reads, -, rfl, whole⟩, -⟩ := offers
  obtain ⟨rfl, same⟩ := List.append_inj' whole rfl
  obtain rfl : last = last' := by simpa using same
  exact ⟨top, reads, rfl⟩

/-- The registry holds the entries and each of them may be lost. A staker that stands in the
    committed top, is still registered and is among the first of the whole registry
    (`Ranking.top`) is reported as stopped just if its own entry was lost (`Registry.Loses`). -/
theorem standing_staker_is_reported_iff_unread (r : Registry) (entries : List (Address × Amount))
    (holds : r.Holds entries) (s : Schedule) (every : s.walk.stride = 1) (height : UInt64)
    (v : List Exchange) (last : List StakerRecord) (update : Update) (reply : Except Failure Unit)
    (d : Dialogue (Except Failure (Nat × Nat)))
    (path : Path (s.commitRegistry height).run
      (v ++ [⟨.checkpoint .readSnapshot, .ok last⟩, ⟨.submit update, reply⟩]) d)
    (answers : ∀ x ∈ v, r.Answers x) (i : UInt64) (e : Address × Amount)
    (registered : entries[i.toNat]? = some e) (committed : e.1 ∈ last.map (·.workBase))
    (first : .ofAddress e.1 e.2 ∈ Ranking.top (Registry.rolled entries)) :
    (∃ q ∈ update.payload, q.workBase = e.1 ∧ q.isActive = false) ↔ r.Loses i e := by
  obtain ⟨top, reads, told⟩ := Schedule.update_of_path path
  rw [told, Departure.update]
  have active := reads.ranked.active
  cases reads with
  | @visited size found registry visit =>
  obtain rfl : size = r.size := by
    have known : (.ok size : Except Failure UInt64) = .ok r.size :=
      answers ⟨.source .registrySize, .ok size⟩ List.mem_cons_self
    injection known
  obtain rfl := Walk.visit_answered visit fun x member => answers x (List.mem_cons_of_mem _ member)
  obtain ⟨present, missing⟩ := holds.mem_records every registered
  have part : (r.recordsFrom s.walk 0).Sublist (Registry.rolled entries) :=
    holds.records_sublist every
  constructor
  · rintro ⟨q, member, named, stopped⟩
    by_contra told
    -- its record is found, and those that are not found can only have stood before it
    have placed := Ranking.mem_top_of_sublist part holds.nodup_rolled first (present told)
    rcases List.mem_append.mp member with among | departed
    · rw [active q among] at stopped
      cases stopped
    · exact (Departure.of_departed departed).2.2 (named ▸ List.mem_map_of_mem placed)
  · intro lost
    have gone : e.1 ∉ (Ranking.top (r.recordsFrom s.walk 0)).map (·.workBase) := fun member =>
      missing lost (List.map_subset _ (fun q => Ranking.mem_of_mem_top) member)
    obtain ⟨q, member, named⟩ := List.mem_map.mp committed
    obtain ⟨q', departed, named', stopped⟩ := Departure.departed_covers member (named ▸ gone)
    exact ⟨q', List.mem_append_right _ departed, named'.trans named, stopped⟩

/-! ## §4. A registry that is read by half -/

namespace Registry

/-- A second staker. -/
def secondStaker : Address := ⟨List.replicate 20 2, rfl⟩

/-- Two stakers. -/
def pair : List (Address × Amount) := [(Session.shortStaker, 7), (secondStaker, 9)]

/-- A registry of both that does not tell the first of them. -/
def halved : Registry where
  size := 2
  stakerAt index := if index = 0 then .error (.network (.simulatedRefusal 0)) else .ok secondStaker
  stakerInfo staker := if staker = secondStaker then .ok 9 else .ok 7

theorem holds_halved : halved.Holds pair where
  distinct := by decide
  size := rfl
  stakerAt := by
    intro i e registered
    by_cases zero : i = 0
    · exact .inr ⟨.simulatedRefusal 0, if_pos zero⟩
    · refine .inl ?_
      have below := (List.getElem?_eq_some_iff.mp registered).1
      have one : i.toNat = 1 := by
        have : i.toNat ≠ 0 := fun same => zero (UInt64.toNat_inj.mp same)
        have : i.toNat < 2 := below
        omega
      rw [one] at registered
      obtain rfl := Option.some.inj registered
      exact if_neg zero
  stakerInfo := by
    intro e member
    rcases List.mem_pair.mp member with rfl | rfl
    · exact .inl (by decide)
    · exact .inl (by decide)

/-- What the registry is asked and tells. -/
def halvedWalk : List Exchange :=
  [⟨.source .registrySize, .ok (2 : UInt64)⟩,
   ⟨.source (.stakerAt 0), .error (.network (.simulatedRefusal 0))⟩,
   ⟨.source (.stakerAt 1), .ok secondStaker⟩,
   ⟨.source (.stakerInfo secondStaker), .ok (9 : Amount)⟩]

/-- The update when both stood in the committed top. -/
def halvedUpdate : Update :=
  ⟨updateCall, [.ofAddress secondStaker 9, (StakerRecord.ofAddress Session.shortStaker 7).stopped]⟩

theorem path_halved : ∃ d, Path (Session.shortSchedule.commitRegistry 0).run
    (halvedWalk ++ [⟨.checkpoint .readSnapshot, .ok (rolled pair)⟩, ⟨.submit halvedUpdate, .ok ()⟩])
    d := by
  apply Exists.intro
  with_unfolding_all
    iterate 6 apply Path.step
    apply Path.here

theorem top_pair (e : Address × Amount) (registered : e ∈ pair) :
    .ofAddress e.1 e.2 ∈ Ranking.top (rolled pair) :=
  Ranking.mem_top_of_few (by decide) (List.mem_map_of_mem registered)

theorem answers_halved : ∀ x ∈ halvedWalk, halved.Answers x := by
  simp [halvedWalk, Registry.Answers, halved]

end Registry

open Registry in
/-- Both stakers of `halved` are registered, are at the top and stood in the committed top. The
    one whose entry is lost is reported as stopped, the other one is not. -/
theorem halved_registry_reports_the_first :
    (∃ q ∈ halvedUpdate.payload, q.workBase = Session.shortStaker ∧ q.isActive = false) ∧
      ¬ ∃ q ∈ halvedUpdate.payload, q.workBase = secondStaker ∧ q.isActive = false := by
  obtain ⟨d, path⟩ := path_halved
  have reported := fun i e => standing_staker_is_reported_iff_unread halved pair holds_halved
    Session.shortSchedule rfl 0 halvedWalk (rolled pair) halvedUpdate (.ok ()) d path answers_halved
    i e
  constructor
  · exact (reported 0 (Session.shortStaker, 7) rfl (by decide) (top_pair _ (by decide))).mpr
      (.inl ⟨.simulatedRefusal 0, rfl⟩)
  · intro stopped
    have lost := (reported 1 (secondStaker, 9) rfl (by decide) (top_pair _ (by decide))).mp stopped
    rcases lost with ⟨fault, lost⟩ | ⟨fault, lost⟩ <;> cases lost

open Registry in
/-- A network failure at one entry of the registry has a staker reported as stopped that is
    still registered. -/
theorem unread_staker_is_reported :
    halved.Holds pair ∧ Session.shortSchedule.walk.stride = 1 ∧
      (∃ d, Path (Session.shortSchedule.commitRegistry 0).run (halvedWalk ++
        [⟨.checkpoint .readSnapshot, .ok (rolled pair)⟩, ⟨.submit halvedUpdate, .ok ()⟩]) d) ∧
      (∀ x ∈ halvedWalk, halved.Answers x) ∧ (Session.shortStaker, 7) ∈ pair ∧
      Session.shortStaker ∈ (rolled pair).map (·.workBase) ∧
      .ofAddress Session.shortStaker 7 ∈ Ranking.top (rolled pair) ∧
      ∃ q ∈ halvedUpdate.payload, q.workBase = Session.shortStaker ∧ q.isActive = false :=
  ⟨holds_halved, rfl, path_halved, answers_halved, List.mem_cons_self, by decide,
    top_pair _ List.mem_cons_self, _, List.mem_cons_of_mem _ List.mem_cons_self, rfl, rfl⟩

end StakeRelay
