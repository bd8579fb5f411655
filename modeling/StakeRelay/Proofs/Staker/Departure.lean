/-
  StakeRelay.Proofs.Staker.Departure — nobody leaves the top unnoticed.

  Main statements:
    * `departed_covers` — whoever stands in the last top and not in the new one is among
      those who are reported as stopped;
    * `of_departed` — and nobody else is;
    * `nodup_departed` — nobody twice;
    * `departed_by_first_records` — so each of them once, in the order of the last top, and by
      the first record there.
-/

import StakeRelay.Staker.Departure

namespace StakeRelay.Departure

/-! ## §1. Who is reported -/

theorem firstOfEach_covers {seen : List Address} {records : List StakerRecord}
    {r : StakerRecord} (member : r ∈ records) (unseen : r.workBase ∉ seen) :
    ∃ r' ∈ firstOfEach seen records, r'.workBase = r.workBase := by
  induction records generalizing seen with
  | nil => cases member
  | cons first rest ih =>
    unfold firstOfEach
    split
    · rename_i known
      rcases List.mem_cons.mp member with rfl | later
      · exact absurd known unseen
      · exact ih later unseen
    · by_cases same : first.workBase = r.workBase
      · exact ⟨first, List.mem_cons_self, same⟩
      · rcases List.mem_cons.mp member with rfl | later
        · exact absurd rfl same
        · have later_unseen : r.workBase ∉ first.workBase :: seen := by
            simp [unseen, Ne.symm same]
          obtain ⟨r', among, named⟩ := ih later later_unseen
          exact ⟨r', List.mem_cons_of_mem _ among, named⟩

/-- Whoever stands in the last top and not in the new one is told to have stopped (`departed`). -/
theorem departed_covers {last top : List StakerRecord} {r : StakerRecord}
    (member : r ∈ last) (gone : r.workBase ∉ top.map (·.workBase)) :
    ∃ r' ∈ departed last top, r'.workBase = r.workBase ∧ r'.isActive = false := by
  have among : r ∈ last.filter fun r => r.workBase ∉ top.map (·.workBase) := by
    rw [List.mem_filter]
    exact ⟨member, decide_eq_true gone⟩
  obtain ⟨r', first, named⟩ := firstOfEach_covers among (List.not_mem_nil (a := r.workBase))
  exact ⟨r'.stopped, List.mem_map_of_mem first, named, rfl⟩

theorem firstOfEach_sublist (seen : List Address) (records : List StakerRecord) :
    (firstOfEach seen records).Sublist records := by
  induction records generalizing seen with
  | nil => exact List.Sublist.refl _
  | cons first rest ih =>
    unfold firstOfEach
    split
    · exact (ih seen).cons first
    · exact (ih _).cons_cons first

theorem unseen_of_mem_firstOfEach {seen : List Address} {records : List StakerRecord}
    {r : StakerRecord} (member : r ∈ firstOfEach seen records) : r.workBase ∉ seen := by
  induction records generalizing seen with
  | nil => cases member
  | cons first rest ih =>
    unfold firstOfEach at member
    split at member
    · exact ih member
    · rename_i unknown
      rcases List.mem_cons.mp member with rfl | later
      · exact unknown
      · exact fun known => ih later (List.mem_cons_of_mem _ known)

theorem unseen_of_named {seen : List Address} {records : List StakerRecord} {a : Address}
    (named : a ∈ (firstOfEach seen records).map (·.workBase)) : a ∉ seen := by
  obtain ⟨r, member, rfl⟩ := List.mem_map.mp named
  exact unseen_of_mem_firstOfEach member

theorem nodup_firstOfEach (seen : List Address) (records : List StakerRecord) :
    ((firstOfEach seen records).map (·.workBase)).Nodup := by
  induction records generalizing seen with
  | nil => exact List.nodup_nil
  | cons first rest ih =>
    unfold firstOfEach
    split
    · exact ih seen
    · rw [List.map_cons, List.nodup_cons]
      exact ⟨fun again => unseen_of_named again List.mem_cons_self, ih _⟩

/-- Who is told to have stopped is told by a record of the last top, `r₀.stopped`. -/
theorem exists_of_mem_departed {last top : List StakerRecord} {r : StakerRecord}
    (member : r ∈ departed last top) :
    ∃ r₀ ∈ last, r = r₀.stopped ∧ r₀.workBase ∉ top.map (·.workBase) := by
  obtain ⟨r₀, first, rfl⟩ := List.mem_map.mp member
  obtain ⟨among, gone⟩ := List.mem_filter.mp ((firstOfEach_sublist _ _).subset first)
  exact ⟨r₀, among, rfl, of_decide_eq_true gone⟩

/-- Whoever is told to have stopped stands in the last top and not in the new one. -/
theorem of_departed {last top : List StakerRecord} {r : StakerRecord}
    (member : r ∈ departed last top) : r.isActive = false ∧
      r.workBase ∈ last.map (·.workBase) ∧ r.workBase ∉ top.map (·.workBase) := by
  obtain ⟨r₀, among, rfl, gone⟩ := exists_of_mem_departed member
  exact ⟨rfl, List.mem_map.mpr ⟨r₀, among, rfl⟩, gone⟩

/-- Nobody is told to have stopped twice by `departed`. -/
theorem nodup_departed (last top : List StakerRecord) :
    ((departed last top).map (·.workBase)).Nodup := by
  rw [departed, List.map_map]
  exact nodup_firstOfEach _ _

theorem length_departed_le (last top : List StakerRecord) :
    (departed last top).length ≤ last.length := by
  rw [departed, List.length_map]
  exact Nat.le_trans (firstOfEach_sublist _ _).length_le (List.length_filter_le _ _)

/-! ## §2. By which record, and in which order -/

/-- Who is told of at all is told of by its first record (`firstOfEach`). -/
theorem find?_of_mem_firstOfEach {seen : List Address} {records : List StakerRecord}
    {r : StakerRecord} (member : r ∈ firstOfEach seen records) :
    records.find? (fun first => first.workBase = r.workBase) = some r := by
  induction records generalizing seen with
  | nil => cases member
  | cons first rest ih =>
    have behind : first.workBase ≠ r.workBase →
        rest.find? (fun first => first.workBase = r.workBase) = some r →
        (first :: rest).find? (fun first => first.workBase = r.workBase) = some r := by
      intro other found
      rwa [List.find?_cons_of_neg (by simpa using other)]
    unfold firstOfEach at member
    split at member
    · rename_i known
      exact behind (fun same => unseen_of_mem_firstOfEach member (same ▸ known)) (ih member)
    · rcases List.mem_cons.mp member with rfl | later
      · exact List.find?_cons_of_pos (decide_eq_true rfl)
      · exact behind (fun same => unseen_of_mem_firstOfEach later (same ▸ List.mem_cons_self))
          (ih later)

/-- Those who have left are told of by their first record in the last top. -/
theorem exists_first_of_mem_departed {last top : List StakerRecord} {r : StakerRecord}
    (member : r ∈ departed last top) :
    ∃ r₀, last.find? (fun first => first.workBase = r.workBase) = some r₀ ∧ r = r₀.stopped := by
  obtain ⟨r₀, first, rfl⟩ := List.mem_map.mp member
  obtain ⟨-, gone⟩ := List.mem_filter.mp ((firstOfEach_sublist _ _).subset first)
  have found := find?_of_mem_firstOfEach first
  rw [List.find?_filter] at found
  -- the records of one staker are all left out, or none of them is
  have alike : ∀ r : StakerRecord, (decide (r.workBase ∉ top.map (·.workBase)) = true ∧
      decide (r.workBase = r₀.workBase) = true) ↔ r.workBase = r₀.workBase := by
    intro r
    rw [decide_eq_true_iff (p := r.workBase = r₀.workBase)]
    refine ⟨And.right, fun same => ⟨?_, same⟩⟩
    rw [same]
    exact gone
  simp only [alike] at found
  exact ⟨r₀, found, rfl⟩

/-- An address in front puts the others one place back. -/
theorem idxOf_behind {a first : Address} (other : a ≠ first) (named : List Address) :
    (first :: named).idxOf a = named.idxOf a + 1 := by
  rw [List.idxOf_cons, beq_false_of_ne (Ne.symm other), cond_false]

/-- An address in front changes nothing in the order of the others. -/
theorem earlier_behind {named addresses : List Address} {first : Address}
    (others : first ∉ addresses)
    (earlier : addresses.Pairwise fun a b => named.idxOf a < named.idxOf b) :
    addresses.Pairwise fun a b => (first :: named).idxOf a < (first :: named).idxOf b := by
  refine earlier.imp_of_mem fun {a b} here there less => ?_
  have other : ∀ c ∈ addresses, c ≠ first := fun c member same => others (same ▸ member)
  rw [idxOf_behind (other a here), idxOf_behind (other b there)]
  exact Nat.succ_lt_succ less

/-- Whoever is left out, the others are told of in the order in which they are first named. -/
theorem earlier_firstOfEach (kept : Address → Bool) (seen : List Address)
    (records : List StakerRecord) :
    ((firstOfEach seen (records.filter fun r => kept r.workBase)).map (·.workBase)).Pairwise
      fun a b => (records.map (·.workBase)).idxOf a < (records.map (·.workBase)).idxOf b := by
  induction records generalizing seen with
  | nil => exact .nil
  | cons first rest ih =>
    cases keeps : kept first.workBase with
    | true =>
      rw [List.filter_cons, if_pos keeps]
      unfold firstOfEach
      split
      · rename_i known
        exact earlier_behind (fun again => unseen_of_named again known) (ih seen)
      · have others : first.workBase ∉ (firstOfEach (first.workBase :: seen)
            (rest.filter fun r => kept r.workBase)).map (·.workBase) :=
          fun again => unseen_of_named again List.mem_cons_self
        refine List.pairwise_cons.mpr ⟨fun a member => ?_, earlier_behind others (ih _)⟩
        have other : a ≠ first.workBase := fun same => others (same ▸ member)
        rw [List.map_cons, List.idxOf_cons_self, idxOf_behind other]
        exact Nat.succ_pos _
    | false =>
      rw [List.filter_cons, if_neg (ne_true_of_eq_false keeps)]
      refine earlier_behind (fun again => ?_) (ih seen)
      obtain ⟨r, later, same⟩ := List.mem_map.mp again
      have held := (List.mem_filter.mp ((firstOfEach_sublist _ _).subset later)).2
      rw [same, keeps] at held
      cases held

/-- Whatever the two tops hold, repeated records among it, those who are told to have stopped
    (`departed`) are just the stakers of the last top whom the new one does not name, each of
    them once and in the order in which the last top first names them. Each is told of by its
    first record there, with nothing changed but that it is no longer active, if it was. -/
theorem departed_by_first_records (last top : List StakerRecord) :
    ((departed last top).map (·.workBase)).Nodup ∧
      (∀ a, a ∈ (departed last top).map (·.workBase) ↔
        a ∈ last.map (·.workBase) ∧ a ∉ top.map (·.workBase)) ∧
      ((departed last top).map (·.workBase)).Pairwise (fun a b =>
        (last.map (·.workBase)).idxOf a < (last.map (·.workBase)).idxOf b) ∧
      ∀ r ∈ departed last top, ∃ r₀,
        last.find? (fun first => first.workBase = r.workBase) = some r₀ ∧
          r = { r₀ with isActive := false } := by
  refine ⟨nodup_departed last top, fun a => ⟨?_, ?_⟩, ?_, fun r => exists_first_of_mem_departed⟩
  · intro told
    obtain ⟨r, member, rfl⟩ := List.mem_map.mp told
    exact (of_departed member).2
  · rintro ⟨named, gone⟩
    obtain ⟨r, member, rfl⟩ := List.mem_map.mp named
    obtain ⟨r', told, same, -⟩ := departed_covers member gone
    exact List.mem_map.mpr ⟨r', told, same⟩
  · rw [departed, List.map_map]
    exact earlier_firstOfEach (fun a => a ∉ top.map (·.workBase)) [] last

/-! ## §3. What the destination is told -/

/-- The new top and those who left the last one. -/
def update (last top : List StakerRecord) : List StakerRecord :=
  top ++ departed last top

/-- Without a record to tell, there is none in either top. -/
theorem update_eq_nil {last top : List StakerRecord} (none : update last top = []) :
    last = [] ∧ top = [] := by
  obtain ⟨rfl, unsaid⟩ := List.append_eq_nil_iff.mp none
  refine ⟨List.eq_nil_iff_forall_not_mem.mpr fun r member => ?_, rfl⟩
  have gone : r.workBase ∉ ([] : List StakerRecord).map (·.workBase) := List.not_mem_nil
  obtain ⟨r', among, -⟩ := departed_covers member gone
  rw [unsaid] at among
  cases among

/-- The new top is the part of the `update` that is still staking. -/
theorem filter_update {top : List StakerRecord} (last : List StakerRecord)
    (active : ∀ r ∈ top, r.isActive = true) : (update last top).filter (·.isActive) = top := by
  have gone : (departed last top).filter (·.isActive) = [] := by
    refine List.filter_eq_nil_iff.mpr fun r member => ?_
    rw [(of_departed member).1]
    exact Bool.false_ne_true
  rw [update, List.filter_append, gone, List.append_nil]
  exact List.filter_eq_self.mpr active

/-- The update that tells of a new top, or none if there is nothing to tell. -/
def told (height : UInt64) (last top : List StakerRecord) :
    List (UInt64 × List StakerRecord) :=
  if update last top = [] then [] else [(height, update last top)]

end StakeRelay.Departure
