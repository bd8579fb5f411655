/-
  StakeRelay.Proofs.Staker.Enumeration — what a walk asks of the registry, and what it finds.

  A walk asks for the size of the registry and then visits the multiples of its stride
  below it. The next index is a saturating sum. A sum that was cut is the greatest word, and
  no size is beyond that: so the walk ends there, and no index comes twice or is made up.

  A visit asks for the staker at the index and, once that is told, for what the staker has
  locked. If either is not told the entry is left out, whatever the failure is, and the walk
  goes on. Only the failure to tell the size is the failure of the walk.

  Main statements:
    * `Walk.indices_eq_multiples` — which indices a walk visits;
    * `Walk.path_visit_iff` — all that it can ask behind the size, and what it finds;
    * `registry_is_enumerated` — the whole walk, and that it ends.
-/

import Mathlib.Algebra.Group.Nat.Defs
import Mathlib.Data.List.Sort
import StakeRelay.Proofs.Follower.Rounds
import StakeRelay.Proofs.Staker.Registry

namespace StakeRelay

open Dialogue

/-! ## §1. Multiples -/

namespace Walk

variable {w : Walk} {size index i : UInt64}

/-- A walk visits what lies below the `size` in steps of its `stride`. -/
theorem mem_indices_iff : i ∈ w.indices size index ↔
    ∃ k, i.toNat = index.toNat + w.stride.toNat * k ∧ i < size := by
  induction index using Walk.indices.induct w size with
  | case1 index below ih =>
    rw [Walk.indices, dif_pos below, List.mem_cons, ih, Saturating.toNat_add]
    have limit := size.toNat_lt
    simp only [UInt64.lt_iff_toNat_lt, ← UInt64.toNat_inj] at below ⊢
    constructor
    · rintro (here | ⟨k, further, inside⟩)
      · exact ⟨0, by omega, by omega⟩
      · -- a sum that was cut lies beyond the size, so this one was not
        refine ⟨k + 1, ?_, inside⟩
        rw [Nat.mul_succ]
        omega
    · rintro ⟨k, place, inside⟩
      cases k with
      | zero => exact .inl place
      | succ k =>
        rw [Nat.mul_succ] at place
        exact .inr ⟨k, by omega, inside⟩
  | case2 index above =>
    rw [Walk.indices, dif_neg above]
    simp only [UInt64.lt_iff_toNat_lt] at above ⊢
    refine ⟨nofun, ?_⟩
    rintro ⟨k, place, inside⟩
    omega

/-- Each index lies behind the one before. -/
theorem pairwise_indices (w : Walk) (size index : UInt64) :
    (w.indices size index).Pairwise (· < ·) := by
  induction index using Walk.indices.induct w size with
  | case1 index below ih =>
    rw [Walk.indices, dif_pos below]
    refine List.pairwise_cons.mpr ⟨fun i later => ?_, ih⟩
    obtain ⟨k, place, -⟩ := mem_indices_iff.mp later
    have := toNat_lt_next (w := w) below
    rw [UInt64.lt_iff_toNat_lt]
    omega
  | case2 index above =>
    rw [Walk.indices, dif_neg above]
    exact .nil

/-- From zero on a walk visits the multiples of its stride below the size (`indices`), in their
    order and each of them once. -/
theorem indices_eq_multiples (w : Walk) (size : UInt64) :
    (w.indices size 0).map UInt64.toNat =
      (List.range size.toNat).filter (w.stride.toNat ∣ ·) := by
  have rising : ((w.indices size 0).map UInt64.toNat).Pairwise (· < ·) :=
    List.pairwise_map.mpr ((pairwise_indices w size 0).imp UInt64.lt_iff_toNat_lt.mp)
  refine rising.eq_of_mem_iff (List.pairwise_lt_range.filter _) fun n => ?_
  simp only [List.mem_map, mem_indices_iff, List.mem_filter, List.mem_range, decide_eq_true_eq]
  constructor
  · rintro ⟨i, ⟨k, place, below⟩, rfl⟩
    rw [show (0 : UInt64).toNat = 0 from rfl, Nat.zero_add] at place
    exact ⟨UInt64.lt_iff_toNat_lt.mp below, k, place⟩
  · rintro ⟨below, k, rfl⟩
    have value : (UInt64.ofNat (w.stride.toNat * k)).toNat = w.stride.toNat * k :=
      UInt64.toNat_ofNat_of_lt' (Nat.lt_trans below size.toNat_lt)
    refine ⟨_, ⟨k, value.trans (Nat.zero_add _).symm, ?_⟩, value⟩
    rw [UInt64.lt_iff_toNat_lt, value]
    exact below

end Walk

/-! ## §2. Visits -/

/-- The visit of one entry of the registry. -/
inductive Visit
  /-- Its staker is not told. -/
  | unnamed (index : UInt64) (failure : Failure)
  /-- Its staker is told, and not what the staker has locked. -/
  | unvalued (index : UInt64) (staker : Address) (failure : Failure)
  /-- Both are told. -/
  | told (index : UInt64) (staker : Address) (balance : Amount)

namespace Visit

/-- The index of the entry. -/
def index : Visit → UInt64
  | unnamed index _ => index
  | unvalued index _ _ => index
  | told index _ _ => index

/-- What is asked and told in a visit. -/
def exchanges : Visit → List Exchange
  | unnamed index failure => [⟨.source (.stakerAt index), .error failure⟩]
  | unvalued index staker failure =>
    [⟨.source (.stakerAt index), .ok staker⟩, ⟨.source (.stakerInfo staker), .error failure⟩]
  | told index staker balance =>
    [⟨.source (.stakerAt index), .ok staker⟩, ⟨.source (.stakerInfo staker), .ok balance⟩]

/-- What a visit comes to. -/
def outcome : Visit → Except Failure StakerRecord
  | unnamed _ failure => .error failure
  | unvalued _ _ failure => .error failure
  | told _ staker balance => .ok {
      identity := .ofAddress staker
      workBase := staker
      isActive := true
      lockedBalance := balance
      workCount := 0 }

/-- The record that a visit finds, if it finds one. -/
def record? (v : Visit) : Option StakerRecord := v.outcome.toOption

theorem length_exchanges_le (v : Visit) : v.exchanges.length ≤ 2 := by
  cases v with
  | unnamed => exact Nat.le_succ 1
  | unvalued => exact Nat.le_refl 2
  | told => exact Nat.le_refl 2

theorem length_flatMap_exchanges_le (visits : List Visit) :
    (visits.flatMap exchanges).length ≤ 2 * visits.length := by
  induction visits with
  | nil => exact Nat.le_refl 0
  | cons v visits ih =>
    have := v.length_exchanges_le
    rw [List.flatMap_cons, List.length_append, List.length_cons]
    omega

/-- The indices of the visits are those of a walk just if their values are the multiples. -/
theorem placed_iff {w : Walk} {size : UInt64} {visits : List Visit} :
    visits.map index = w.indices size 0 ↔
      visits.map (·.index.toNat) = (List.range size.toNat).filter (w.stride.toNat ∣ ·) := by
  have values : visits.map (·.index.toNat) = (visits.map index).map UInt64.toNat :=
    by rw [List.map_map]; rfl
  rw [values, ← Walk.indices_eq_multiples]
  exact (List.map_inj_right fun _ _ => UInt64.toNat_inj.mp).symm

end Visit

namespace Walk

variable {w : Walk} {size index : UInt64} {t : List Exchange}

theorem path_readEntry_iff {outcome : Except Failure StakerRecord} :
    Path (readEntry index).run t (.done outcome) ↔
      ∃ v : Visit, v.index = index ∧ t = v.exchanges ∧ outcome = v.outcome := by
  constructor
  · intro path
    rcases path.ends_attempt with ⟨failure, asked, rfl⟩ | ⟨staker, u, v, rfl, asked, path⟩
    · exact ⟨.unnamed index failure, rfl, asked.ends_request, rfl⟩
    rw [asked.ends_request]
    rcases path.ends_attempt with ⟨failure, asked, rfl⟩ | ⟨balance, v₁, v₂, rfl, asked, path⟩
    · rw [asked.ends_request]
      exact ⟨.unvalued index staker failure, rfl, rfl, rfl⟩
    · obtain ⟨rfl, rfl⟩ := Path.ends_done path
      rw [asked.ends_request]
      exact ⟨.told index staker balance, rfl, rfl, rfl⟩
  · rintro ⟨v, rfl, rfl, rfl⟩
    cases v with
    | unnamed index failure => exact .step _ (.here _)
    | unvalued index staker failure => exact .step _ (.step _ (.here _))
    | told index staker balance => exact .step _ (.step _ (.here _))

/-- One `Visit` for each index, one after another, whatever each of them comes to. -/
theorem path_visit_iff {found : List StakerRecord} :
    Path (w.visit size index) t (.done found) ↔
      ∃ visits : List Visit, visits.map Visit.index = w.indices size index ∧
        t = visits.flatMap Visit.exchanges ∧ found = visits.filterMap Visit.record? := by
  -- induction on the walk: an entry is one visit, and the others are the walk behind it
  induction index using Walk.visit.induct w size generalizing t found with
  | case1 index below ih =>
    rw [visit, dif_pos below, Walk.indices, dif_pos below]
    constructor
    · intro path
      obtain ⟨outcome, u, v, rfl, entry, path⟩ := Path.ends_bind path
      obtain ⟨rest, v₁, v₂, rfl, later, last⟩ := Path.ends_bind path
      obtain ⟨visit, rfl, rfl, rfl⟩ := path_readEntry_iff.mp entry
      obtain ⟨visits, placed, rfl, rfl⟩ := ih.mp later
      refine ⟨visit :: visits, by rw [List.map_cons, placed], ?_⟩
      cases visit with
      | told index staker balance =>
        obtain ⟨rfl, rfl⟩ := Path.ends_done last
        exact ⟨by rw [List.append_nil, List.flatMap_cons], rfl⟩
      | _ =>
        obtain ⟨rfl, rfl⟩ := Path.ends_done last
        exact ⟨by rw [List.append_nil, List.flatMap_cons], rfl⟩
    · rintro ⟨visits, placed, rfl, rfl⟩
      obtain ⟨visit, visits, rfl, rfl, placed⟩ := List.map_eq_cons_iff.mp placed
      rw [List.flatMap_cons]
      refine ((path_readEntry_iff.mpr ⟨visit, rfl, rfl, rfl⟩).bind _).append ?_
      rw [← List.append_nil (visits.flatMap _)]
      refine ((ih.mpr ⟨visits, placed, rfl, rfl⟩).bind _).append ?_
      cases visit <;> exact .here _
  | case2 index above =>
    rw [visit, dif_neg above, Walk.indices, dif_neg above]
    constructor
    · intro path
      obtain ⟨rfl, rfl⟩ := Path.ends_done path
      exact ⟨[], rfl, rfl, rfl⟩
    · rintro ⟨visits, placed, rfl, rfl⟩
      rw [List.map_eq_nil_iff.mp placed]
      exact .here _

/-- The size is not told, or the walk goes through the multiples of its stride below it. -/
theorem path_build_iff {outcome : Except Failure (List StakerRecord)} :
    Path w.build.run t (.done outcome) ↔
      (∃ failure, t = [⟨.source .registrySize, .error failure⟩] ∧ outcome = .error failure) ∨
      ∃ (size : UInt64) (visits : List Visit),
        t = ⟨.source .registrySize, .ok size⟩ :: visits.flatMap Visit.exchanges ∧
        visits.map (·.index.toNat) = (List.range size.toNat).filter (w.stride.toNat ∣ ·) ∧
        outcome = .ok (visits.filterMap Visit.record?) := by
  constructor
  · intro path
    rcases path.ends_attempt with ⟨failure, asked, rfl⟩ | ⟨size, u, v, rfl, asked, lifted⟩
    · exact .inl ⟨failure, asked.ends_request, rfl⟩
    · rw [attempt_lift] at lifted
      obtain ⟨found, v, rest, rfl, walk, last⟩ := lifted.ends_bind
      obtain ⟨rfl, rfl⟩ := last.ends_done
      obtain ⟨visits, placed, rfl, rfl⟩ := path_visit_iff.mp walk
      rw [asked.ends_request, List.append_nil]
      exact .inr ⟨size, visits, rfl, Visit.placed_iff.mp placed, rfl⟩
  · rintro (⟨failure, rfl, rfl⟩ | ⟨size, visits, rfl, placed, rfl⟩)
    · exact .step _ (.here _)
    · have walk := path_visit_iff.mpr ⟨visits, Visit.placed_iff.mpr placed, rfl, rfl⟩
      refine .step _ ?_
      show Path (ExceptT.lift (w.visit size 0) : Attempt _).run _ _
      rw [attempt_lift, ← List.append_nil (visits.flatMap _)]
      exact (walk.bind _).append (.here _)

/-- A walk asks once for the size and at most twice for each index, of which there are fewer
    than `2 ^ 64`. -/
theorem length_path_build {outcome : Except Failure (List StakerRecord)}
    (path : Path w.build.run t (.done outcome)) : t.length ≤ 1 + 2 * (2 ^ 64 - 1) := by
  rcases path_build_iff.mp path with ⟨failure, rfl, -⟩ | ⟨size, visits, rfl, placed, -⟩
  · exact Nat.le_add_right _ _
  have asked := Visit.length_flatMap_exchanges_le visits
  have visited : visits.length ≤ size.toNat := by
    rw [← List.length_map (·.index.toNat), placed]
    exact (List.length_filter_le _ _).trans_eq List.length_range
  have := size.toNat_lt
  rw [List.length_cons]
  omega

end Walk

/-! ## §3. The whole walk -/

/-- The registry is enumerated exactly, and the walk ends. For every size of the registry and
    every stride,
      * a walk that has come to its end was not told the size and failed with just that failure;
        or it was told the size, visited the multiples of the stride below it (`Visit.index`),
        each once and in rising order, and its result is the records of the visits that found one
        (`Visit.record?`), in that order. Whatever is told in the visits, such a walk takes place;
      * wherever a walk stands, it can be brought to its end, and it has asked no more than once
        for the size and twice for each index. -/
theorem registry_is_enumerated (w : Walk) :
    (∀ t outcome, Path w.build.run t (.done outcome) ↔
      (∃ failure, t = [⟨.source .registrySize, .error failure⟩] ∧ outcome = .error failure) ∨
      ∃ (size : UInt64) (visits : List Visit),
        t = ⟨.source .registrySize, .ok size⟩ :: visits.flatMap Visit.exchanges ∧
        visits.map (·.index.toNat) = (List.range size.toNat).filter (w.stride.toNat ∣ ·) ∧
        outcome = .ok (visits.filterMap Visit.record?)) ∧
    ∀ t d, Path w.build.run t d →
      (∃ u outcome, Path d u (.done outcome)) ∧ t.length ≤ 1 + 2 * (2 ^ 64 - 1) := by
  refine ⟨fun t outcome => Walk.path_build_iff, fun t d path => ?_⟩
  obtain ⟨u, outcome, rest⟩ := exists_end d
  have whole := Walk.length_path_build (path.append rest)
  rw [List.length_append] at whole
  exact ⟨⟨u, outcome, rest⟩, (Nat.le_add_right _ _).trans whole⟩

/-- Of three entries a walk of stride two visits the first and the last. The first is found, and
    the last is refused and left out. -/
theorem refused_entry_is_left_out :
    Path (Walk.mk 2 (by decide)).build.run
      [⟨.source .registrySize, .ok (3 : UInt64)⟩,
       ⟨.source (.stakerAt 0), .ok Address.zero⟩,
       ⟨.source (.stakerInfo .zero), .ok (5 : Amount)⟩,
       ⟨.source (.stakerAt 2), .error (.network (.simulatedRefusal 2))⟩]
      (.done (.ok [.ofAddress .zero 5])) :=
  ((registry_is_enumerated _).1 _ _).mpr
    (.inr ⟨3, [.told 0 .zero 5, .unnamed 2 _], rfl, by decide, rfl⟩)

end StakeRelay
