/-
  StakeRelay.Proofs.Staker.Ranking — the ranking of a part of the records.

  The ranking is stable, so records that are left out leave the others in their order. A
  record that is among the first of all records is then among the first of any part of them
  that holds it: those that are left out can only have stood in its way.

  Main statements:
    * `ranked_sublist` — the ranking of a part is a part of the ranking;
    * `mem_top_of_sublist` — whoever is at the top of all is at the top of a part.
-/

import StakeRelay.Staker.Ranking

namespace StakeRelay.Ranking

variable {part whole : List StakerRecord} {r : StakerRecord}

theorem before_trans (a b c : StakerRecord) (first : before a b = true)
    (second : before b c = true) : before a c = true := by
  simp only [before, decide_eq_true_eq] at *
  exact Fin.le_trans second first

theorem before_total (a b : StakerRecord) : (before a b || before b a) = true := by
  simp only [before, Bool.or_eq_true, decide_eq_true_eq]
  exact Fin.le_total b.lockedBalance a.lockedBalance

theorem pairwise_ranked (records : List StakerRecord) :
    (ranked records).Pairwise fun a b => before a b = true :=
  List.pairwise_mergeSort before_trans before_total records

/-- The amounts of a `top` fall. -/
theorem falling_top (records : List StakerRecord) :
    (top records).Pairwise fun a b => b.lockedBalance ≤ a.lockedBalance :=
  ((pairwise_ranked records).sublist (List.take_sublist _ _)).imp of_decide_eq_true

/-- A record stands in front of those of no greater amount and behind all others (`before`). -/
theorem ranked_cons (r : StakerRecord) (records : List StakerRecord) :
    ∃ front back, ranked (r :: records) = front ++ r :: back ∧
      ranked records = front ++ back ∧ (∀ a ∈ front, before r a = false) ∧
      ∀ a ∈ back, before r a = true := by
  obtain ⟨front, back, placed, split, greater⟩ :=
    List.mergeSort_cons before_trans before_total r records
  refine ⟨front, back, placed, split, fun a member => by simpa using greater a member, ?_⟩
  have sorted := pairwise_ranked (r :: records)
  rw [ranked, placed] at sorted
  exact fun a member => List.rel_of_pairwise_cons (List.pairwise_append.mp sorted).2.1 member

theorem parts_of_before {front back : List StakerRecord} (greater : ∀ a ∈ front, before r a = false)
    (less : ∀ a ∈ back, before r a = true) :
    ((front ++ back).filter fun a => !before r a) = front ∧
      ((front ++ back).filter fun a => before r a) = back := by
  constructor
  · rw [List.filter_append, List.filter_eq_self.mpr fun a member => by simp [greater a member],
      List.filter_eq_nil_iff.mpr fun a member => by simp [less a member], List.append_nil]
  · rw [List.filter_append, List.filter_eq_nil_iff.mpr fun a member => by simp [greater a member],
      List.filter_eq_self.mpr less, List.nil_append]

/-- The ranking of a part is a part of the ranking (`ranked`). -/
theorem ranked_sublist (sub : part.Sublist whole) : (ranked part).Sublist (ranked whole) := by
  induction sub with
  | slnil => exact List.Sublist.refl _
  | @cons part whole r sub ih =>
    obtain ⟨front, back, placed, split, -⟩ := ranked_cons r whole
    rw [placed]
    rw [split] at ih
    exact ih.trans (List.Sublist.append_left (List.sublist_cons_self r back) front)
  | @cons_cons part whole r sub ih =>
    obtain ⟨front, back, placed, split, greater, less⟩ := ranked_cons r whole
    obtain ⟨front', back', placed', split', greater', less'⟩ := ranked_cons r part
    rw [split, split'] at ih
    -- what stands in front of the record and what stands behind it are told apart by `before`
    obtain ⟨fronts, backs⟩ := parts_of_before greater less
    obtain ⟨fronts', backs'⟩ := parts_of_before greater' less'
    have first := ih.filter fun a => !before r a
    have last := ih.filter fun a => before r a
    rw [fronts, fronts'] at first
    rw [backs, backs'] at last
    rw [placed, placed']
    exact first.append (last.cons_cons r)

/-- Whoever is among the first of a list is among the first of a part that holds it. -/
theorem mem_take_of_sublist (sub : part.Sublist whole) (distinct : whole.Nodup) {n : Nat}
    (first : r ∈ whole.take n) (held : r ∈ part) : r ∈ part.take n := by
  induction sub generalizing n with
  | slnil => exact absurd held List.not_mem_nil
  | @cons part whole a sub ih =>
    cases n with
    | zero => exact absurd first List.not_mem_nil
    | succ n =>
      rw [List.take_succ_cons] at first
      rcases List.mem_cons.mp first with rfl | later
      · exact absurd (sub.subset held) (List.nodup_cons.mp distinct).1
      · exact List.take_subset_take_left part (Nat.le_succ n)
          (ih (List.nodup_cons.mp distinct).2 later held)
  | @cons_cons part whole a sub ih =>
    cases n with
    | zero => exact absurd first List.not_mem_nil
    | succ n =>
      rw [List.take_succ_cons] at first ⊢
      rcases List.mem_cons.mp held with rfl | held
      · exact List.mem_cons_self
      rcases List.mem_cons.mp first with rfl | later
      · exact List.mem_cons_self
      · exact List.mem_cons_of_mem a (ih (List.nodup_cons.mp distinct).2 later held)

/-- Whoever is at the `top` of all records is at the top of a part of them that holds it. -/
theorem mem_top_of_sublist (sub : part.Sublist whole) (distinct : whole.Nodup)
    (first : r ∈ top whole) (held : r ∈ part) : r ∈ top part :=
  mem_take_of_sublist (ranked_sublist sub) ((List.mergeSort_perm whole before).nodup_iff.mpr distinct)
    first (List.mem_mergeSort.mpr held)

/-- All of a few records, at most `topSize`, are at the top. -/
theorem mem_top_of_few (few : whole.length ≤ topSize) (member : r ∈ whole) : r ∈ top whole := by
  rw [top, best, List.take_of_length_le (by rwa [ranked, List.length_mergeSort])]
  exact List.mem_mergeSort.mpr member

end StakeRelay.Ranking
