/-
  StakeRelay.Proofs.Staker.Places — the place of each record in the ranking.

  A record is told apart from an equal one by its index among the records that are ranked.
  It comes ahead of those with smaller amounts, and of those with the same amount that stand
  behind it; so no two records stand level, and the place of a record is the number of those
  ahead of it. The sort is stable, which is why it finds just these places.

  Main statements:
    * `rising_mergeSort` — what a stable sort makes of indices that rise;
    * `order_place_iff` — which index comes at which place;
    * `best_by_place` — so the first records are those with the fewest ahead of them.
-/

import Mathlib.Data.List.FinRange
import StakeRelay.Proofs.Staker.Ranking

namespace StakeRelay.Ranking

/-! ## §1. Stable sorts and counted places -/

section Sorting

variable {ι : Type} [LT ι] {le : ι → ι → Bool} {indices : List ι}

/-- A stable sort leaves rising indices in their order wherever it does not tell them apart. -/
theorem rising_mergeSort (trans : ∀ i j k, le i j = true → le j k = true → le i k = true)
    (total : ∀ i j, (le i j || le j i) = true) (rising : indices.Pairwise (· < ·)) :
    (indices.mergeSort le).Pairwise fun i j => le i j = true ∧ (le j i = true → i < j) := by
  induction indices with
  | nil =>
    rw [List.mergeSort_nil]
    exact .nil
  | cons i rest ih =>
    obtain ⟨first, later⟩ := List.pairwise_cons.mp rising
    obtain ⟨front, back, placed, split, greater⟩ := List.mergeSort_cons trans total i rest
    have sorted := List.pairwise_mergeSort trans total (i :: rest)
    have others := ih later
    rw [placed] at sorted ⊢
    rw [split] at others
    obtain ⟨fronts, backs, across⟩ := List.pairwise_append.mp others
    obtain ⟨-, behind, before⟩ := List.pairwise_append.mp sorted
    -- the first index is put behind those that are strictly ahead of it, and ahead of the others
    refine List.pairwise_append.mpr ⟨fronts, List.pairwise_cons.mpr ⟨?_, backs⟩, ?_⟩
    · intro j member
      have held : j ∈ rest.mergeSort le := by
        rw [split]
        exact List.mem_append_right front member
      exact ⟨List.rel_of_pairwise_cons behind member,
        fun _ => first j (List.mem_mergeSort.mp held)⟩
    · intro j ahead k member
      rcases List.mem_cons.mp member with rfl | member
      · refine ⟨before j ahead k List.mem_cons_self, fun level => ?_⟩
        have strict := greater j ahead
        rw [level] at strict
        cases strict
      · exact across j ahead k member

/-- In a list that is ordered strictly, as many elements come ahead of one as stand in front
    of it. -/
theorem countP_of_pairwise {α : Type} {ahead : α → α → Prop} [DecidableRel ahead]
    (asymm : ∀ a b, ahead a b → ¬ ahead b a) {front back : List α} {a : α}
    (ordered : (front ++ a :: back).Pairwise ahead) :
    (front ++ a :: back).countP (fun b => ahead b a) = front.length := by
  obtain ⟨-, behind, before⟩ := List.pairwise_append.mp ordered
  have fronts : front.countP (fun b => ahead b a) = front.length :=
    List.countP_eq_length.mpr fun b member =>
      decide_eq_true (before b member a List.mem_cons_self)
  have backs : (a :: back).countP (fun b => ahead b a) = 0 := by
    refine List.countP_eq_zero.mpr fun b member => ?_
    rw [decide_eq_true_eq]
    rcases List.mem_cons.mp member with rfl | member
    · exact fun self => asymm b b self self
    · exact asymm a b (List.rel_of_pairwise_cons behind member)
  rw [List.countP_append, fronts, backs, Nat.add_zero]

end Sorting

/-! ## §2. Places -/

variable {records : List StakerRecord}

/-- The record at index `j` comes ahead of the one at index `i`. -/
def Ahead (records : List StakerRecord) (j i : Fin records.length) : Prop :=
  records[i].lockedBalance < records[j].lockedBalance ∨
    records[j].lockedBalance = records[i].lockedBalance ∧ j < i

instance (records : List StakerRecord) : DecidableRel (Ahead records) := fun _ _ =>
  inferInstanceAs (Decidable (_ ∨ _))

/-- How many records come ahead of the one at the index. -/
def place (records : List StakerRecord) (i : Fin records.length) : Nat :=
  (List.finRange records.length).countP fun j => Ahead records j i

/-- The indices of the records in the order in which these are ranked. -/
def order (records : List StakerRecord) : List (Fin records.length) :=
  (List.finRange records.length).mergeSort fun i j => before records[i] records[j]

theorem Ahead.asymm {i j : Fin records.length} (ahead : Ahead records j i) :
    ¬ Ahead records i j := by
  simp only [Ahead, Fin.lt_def, Fin.ext_iff] at ahead ⊢
  omega

theorem map_order (records : List StakerRecord) :
    (order records).map records.get = ranked records := by
  have indexed := List.map_get_finRange records
  conv => rhs; rw [ranked, ← indexed]
  exact List.map_mergeSort fun _ _ _ _ => rfl

theorem ahead_order (records : List StakerRecord) : (order records).Pairwise (Ahead records) := by
  refine (rising_mergeSort (fun i j k => before_trans records[i] records[j] records[k])
    (fun i j => before_total records[i] records[j]) (List.pairwise_lt_finRange _)).imp ?_
  intro i j given
  obtain ⟨falls, level⟩ := given
  simp only [before, decide_eq_true_eq, Fin.le_def, Fin.lt_def] at falls level
  simp only [Ahead, Fin.lt_def, Fin.ext_iff]
  omega

/-- At each `place` of the ranking is the index with as many records ahead of it. -/
theorem order_place_iff {p : Nat} {i : Fin records.length} :
    (order records)[p]? = some i ↔ place records i = p := by
  have found : ∀ {q : Nat}, (order records)[q]? = some i → place records i = q := by
    intro q here
    obtain ⟨inside, rfl⟩ := List.getElem?_eq_some_iff.mp here
    have split : (order records).take q ++ (order records)[q] :: (order records).drop (q + 1) =
        order records := by
      rw [← List.drop_eq_getElem_cons inside, List.take_append_drop]
    have counted := countP_of_pairwise (fun _ _ => Ahead.asymm) (split ▸ ahead_order records)
    rw [split, List.length_take_of_le (Nat.le_of_lt inside)] at counted
    exact ((List.mergeSort_perm _ _).countP_eq _).symm.trans counted
  refine ⟨found, fun placed => ?_⟩
  have member : i ∈ order records := List.mem_mergeSort.mpr (List.mem_finRange i)
  obtain ⟨q, here⟩ := List.getElem?_of_mem member
  rwa [← placed, found here]

/-! ## §3. The first records -/

/-- The first `n` records by falling amount (`best`) are as many as there are, up to `n`. Each
    of them is the record of one index, unchanged: an index is among them just if fewer than `n`
    records come ahead of it (`place`), and then it stands at the place that is their number. -/
theorem best_by_place (n : Nat) (records : List StakerRecord) :
    (best n records).length = min n records.length ∧
      ∃ chosen : List (Fin records.length), best n records = chosen.map records.get ∧
        (∀ i, i ∈ chosen ↔ place records i < n) ∧
        ∀ p i, chosen[p]? = some i ↔ place records i = p ∧ p < n := by
  have placed : ∀ p i, ((order records).take n)[p]? = some i ↔ place records i = p ∧ p < n := by
    intro p i
    rw [List.getElem?_take]
    by_cases within : p < n
    · rw [if_pos within, order_place_iff, and_iff_left within]
    · rw [if_neg within]
      exact ⟨nofun, fun given => absurd given.2 within⟩
  refine ⟨length_best n records, (order records).take n, ?_, fun i => ?_, placed⟩
  · rw [best, ← map_order, List.map_take]
  · rw [List.mem_iff_getElem?]
    simp only [placed]
    constructor
    · rintro ⟨p, rfl, within⟩
      exact within
    · exact fun within => ⟨_, rfl, within⟩

end StakeRelay.Ranking
