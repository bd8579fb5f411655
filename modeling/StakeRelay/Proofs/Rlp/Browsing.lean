/-
  StakeRelay.Proofs.Rlp.Browsing — looking up the items of a list, with a bookmark.

  A list may also be read item by item, by index. Each look leaves a bookmark at the place
  of the item that it looked for, and a later look at the same or a greater index goes on
  from there. Only a look that begins anew is held to the list's payload: from a bookmark
  it goes on through all the bytes at hand. The bookmark is left even if there is no
  complete item at its place.

  A reader goes through a list twice, first to count the items and then to read them. The
  second pass starts with the bookmark of the first, so the bytes behind the payload of a
  list may come to be read as its items. `listItems` is what the second pass finds.

  Main statements:
    * `Pass.unique` — a pass finds the same items each time;
    * `exists_passes` — both passes come to an end, and the second finds `listItems`;
    * `listItems_of_passes` — so what two passes find is what is read of the list.
-/

import StakeRelay.Proofs.Rlp.Item

namespace StakeRelay.Rlp

/-! ## §1. A header in front of more bytes -/

theorem longHeader_append {k : Nat} {rest : Bytes} {h : Header} (more : Bytes)
    (read : longHeader k rest = .ok h) : longHeader k (rest ++ more) = .ok h := by
  cases rest with
  | nil => cases read
  | cons first tail =>
    unfold longHeader at read ⊢
    simp only [List.cons_append] at read ⊢
    split at read
    · cases read
    rename_i pos
    rw [if_neg pos]
    split at read
    · cases read
    rename_i enough
    -- the bytes of the length stand in front of what was appended
    have front : (first :: (tail ++ more)).take k = (first :: tail).take k := by
      rw [← List.cons_append]
      exact List.take_append_of_le_length (by omega)
    have long : ¬ (first :: (tail ++ more)).length < k := by
      simp only [List.length_cons, List.length_append] at enough ⊢
      omega
    rw [if_neg long, front]
    exact read

theorem announced_append {b : UInt8} {rest : Bytes} {h : Header} (more : Bytes)
    (read : announced b rest = .ok h) : announced b (rest ++ more) = .ok h := by
  unfold announced at read ⊢
  simp only at read ⊢
  by_cases single : b.toNat < 0x80
  · rwa [if_pos single] at read ⊢
  rw [if_neg single] at read ⊢
  by_cases shortData : b.toNat ≤ 0xB7
  · rwa [if_pos shortData] at read ⊢
  rw [if_neg shortData] at read ⊢
  by_cases longData : b.toNat < 0xC0
  · rw [if_pos longData] at read ⊢
    exact longHeader_append more read
  rw [if_neg longData] at read ⊢
  by_cases shortList : b.toNat ≤ 0xF7
  · rwa [if_pos shortList] at read ⊢
  · rw [if_neg shortList] at read ⊢
    exact longHeader_append more read

/-- A complete item stays one, whatever follows it: `header?` is the same. -/
theorem header?_append {bs : Bytes} {h : Header} (more : Bytes) (read : header? bs = .ok h) :
    header? (bs ++ more) = .ok h := by
  have enough := total_le_of_header? read
  cases bs with
  | nil => cases read
  | cons b rest =>
    unfold header? at read
    simp only at read
    split at read
    · cases read
    · rename_i h' found
      split at read
      · cases read
      · injection read with same
        subst same
        have room : h'.total ≤ (rest ++ more).length + 1 := by
          rw [List.length_cons] at enough
          rw [List.length_append]
          omega
        exact header?_of_announced (announced_append more found) room

/-- No proper front of a `Whole` item is a complete item. -/
theorem Whole.cut {item front rest : Bytes} (whole : Whole item) (split : front ++ rest = item)
    (proper : rest ≠ []) : ∃ fault, header? front = .error fault := by
  cases read : header? front with
  | error fault => exact ⟨fault, rfl⟩
  | ok h =>
    -- the header would announce the same bytes in front of the rest, and all of the item
    have within := total_le_of_header? read
    obtain ⟨h', read', total⟩ := whole []
    rw [List.append_nil, ← split, header?_append rest read] at read'
    injection read' with same
    subst same
    have := List.length_pos_iff.mpr proper
    rw [← split, List.length_append] at total
    omega

/-! ## §2. Looks -/

/-- Where the last item was looked for. -/
structure Bookmark where
  /-- The index of the item. -/
  index : Nat
  /-- The bytes before it, counted from the first byte of the list. -/
  offset : Nat
  deriving Repr, DecidableEq

/-- Where a look begins. -/
structure Outset where
  /-- The bytes from there on. -/
  front : Bytes
  /-- How many items come before the one that is looked for. -/
  ahead : Nat
  /-- The bytes before it, counted from the first byte of the list. -/
  offset : Nat

/-- A look that begins anew stays within the payload. -/
def anew (bs : Bytes) (index : Nat) : Option Outset :=
  match header? bs with
  | .error _ => none
  | .ok h => some ⟨(bs.drop h.size).take h.payload, index, h.size⟩

/-- A look goes on from a bookmark that is not beyond its item. -/
def outset (bs : Bytes) (mark : Option Bookmark) (index : Nat) : Option Outset :=
  match mark with
  | none => anew bs index
  | some m =>
    if m.index ≤ index then some ⟨bs.drop m.offset, index - m.index, m.offset⟩ else anew bs index

/-- The bytes behind the first `n` items, and how many bytes these have. -/
def skip : Nat → Bytes → Option (Bytes × Nat)
  | 0, bs => some (bs, 0)
  | n + 1, bs =>
    match header? bs with
    | .error _ => none
    | .ok h => (skip n (bs.drop h.total)).map fun (rest, passed) => (rest, h.total + passed)

/-- The complete item at the front of the bytes. -/
def item? (bs : Bytes) : Option Bytes :=
  match header? bs with
  | .error _ => none
  | .ok h => some (bs.take h.total)

/-- The item at an index, and the bookmark after the look. -/
def look (bs : Bytes) (mark : Option Bookmark) (index : Nat) : Option Bytes × Option Bookmark :=
  match outset bs mark index with
  | none => (none, mark)
  | some o =>
    match skip o.ahead o.front with
    | none => (none, mark)
    | some (rest, passed) => (item? rest, some ⟨index, o.offset + passed⟩)

/-- Looks at one index after another, up to the first that finds nothing: the bookmarks
    before and after, and the items. -/
inductive Pass (bs : Bytes) : Nat → Option Bookmark → List Bytes → Option Bookmark → Prop
  | stop {i : Nat} {m m' : Option Bookmark} (nothing : look bs m i = (none, m')) :
      Pass bs i m [] m'
  | item {i : Nat} {m m' m'' : Option Bookmark} {x : Bytes} {xs : List Bytes}
      (found : look bs m i = (some x, m')) (rest : Pass bs (i + 1) m' xs m'') :
      Pass bs i m (x :: xs) m''

variable {bs : Bytes} {i : Nat}

/-- A pass finds the same items each time: `Pass` is a function of where it begins. -/
theorem Pass.unique {m m' m'' : Option Bookmark} {xs ys : List Bytes} (one : Pass bs i m xs m')
    (other : Pass bs i m ys m'') : xs = ys ∧ m' = m'' := by
  induction one generalizing ys with
  | stop nothing =>
    cases other with
    | stop nothing' =>
      rw [nothing] at nothing'
      exact ⟨rfl, (Prod.mk.inj nothing').2⟩
    | item found' _ =>
      rw [nothing] at found'
      cases found'
  | item found _ ih =>
    cases other with
    | stop nothing' =>
      rw [found] at nothing'
      cases nothing'
    | item found' rest' =>
      rw [found] at found'
      obtain ⟨same, same'⟩ := Prod.mk.inj found'
      injection same with same
      subst same same'
      obtain ⟨rfl, last⟩ := ih rest'
      exact ⟨rfl, last⟩

/-! ## §3. Passes -/

/-- A look at the place of the bookmark itself. -/
theorem look_at (bs : Bytes) (i offset : Nat) :
    look bs (some ⟨i, offset⟩) i = (item? (bs.drop offset), some ⟨i, offset⟩) := by
  unfold look outset
  simp only [Nat.le_refl, if_true, Nat.sub_self]
  rfl

/-- A look at the item behind the one at the bookmark. -/
theorem look_behind {offset : Nat} {h : Header} (here : header? (bs.drop offset) = .ok h) :
    look bs (some ⟨i, offset⟩) (i + 1) =
      (item? (bs.drop (offset + h.total)), some ⟨i + 1, offset + h.total⟩) := by
  unfold look outset
  simp only [Nat.le_succ, if_true, Nat.add_sub_cancel_left]
  rw [skip, here]
  simp only [skip, Option.map_some, List.drop_drop, Nat.add_zero]

/-- The first look of a pass that begins anew. -/
theorem look_anew (mark : Option Bookmark) {h : Header} (read : header? bs = .ok h)
    (beyond : ∀ m, mark = some m → 0 < m.index) :
    look bs mark 0 = (item? ((bs.drop h.size).take h.payload), some ⟨0, h.size⟩) := by
  have begins : outset bs mark 0 = some ⟨(bs.drop h.size).take h.payload, 0, h.size⟩ := by
    have fresh : anew bs 0 = some ⟨(bs.drop h.size).take h.payload, 0, h.size⟩ := by
      unfold anew
      rw [read]
    cases mark with
    | none => exact fresh
    | some m =>
      have := beyond m rfl
      unfold outset
      simp only
      rw [if_neg (by omega)]
      exact fresh
  unfold look
  rw [begins]
  rfl

/-- From a bookmark at a complete item a pass walks through all bytes behind it. -/
theorem pass_behind {offset : Nat} {h : Header} (here : header? (bs.drop offset) = .ok h) :
    ∃ m, i < m.index ∧
      Pass bs (i + 1) (some ⟨i, offset⟩) (sequence (bs.drop (offset + h.total))) (some m) := by
  -- induction on the bytes behind the bookmark, of which each item takes some
  generalize size : bs.length - offset = n
  induction n using Nat.strongRecOn generalizing i offset h with
  | ind n ih =>
    have next := look_behind (i := i) here
    have pos := total_pos_of_header? here
    have within := total_le_of_header? here
    rw [List.length_drop] at within
    cases there : header? (bs.drop (offset + h.total)) with
    | error fault =>
      rw [sequence_of_error there]
      refine ⟨⟨i + 1, offset + h.total⟩, Nat.lt_succ_self i, .stop ?_⟩
      rw [next, item?, there]
    | ok h' =>
      obtain ⟨m, further, pass⟩ := ih (bs.length - (offset + h.total)) (by omega) (i := i + 1)
        there rfl
      rw [sequence_of_ok there, List.drop_drop]
      refine ⟨m, by omega, .item ?_ pass⟩
      rw [next, item?, there]

/-- A pass that begins anew, at `h.size`, in a list whose first item lies within the payload. -/
theorem pass_anew (mark : Option Bookmark) {h first : Header} (read : header? bs = .ok h)
    (within : header? ((bs.drop h.size).take h.payload) = .ok first)
    (beyond : ∀ m, mark = some m → 0 < m.index) :
    ∃ m, 0 < m.index ∧ Pass bs 0 mark (sequence (bs.drop h.size)) (some m) := by
  -- the first item is the same within the payload and in front of all bytes
  have split := List.take_append_drop h.payload (bs.drop h.size)
  have here : header? (bs.drop h.size) = .ok first := by
    rw [← split]
    exact header?_append _ within
  have same : ((bs.drop h.size).take h.payload).take first.total =
      (bs.drop h.size).take first.total := by
    have front : ((bs.drop h.size).take h.payload ++ (bs.drop h.size).drop h.payload).take
        first.total = ((bs.drop h.size).take h.payload).take first.total :=
      List.take_append_of_le_length (total_le_of_header? within)
    rw [split] at front
    exact front.symm
  obtain ⟨m, further, pass⟩ := pass_behind (i := 0) here
  refine ⟨m, further, ?_⟩
  rw [sequence_of_ok here, List.drop_drop]
  refine .item ?_ pass
  rw [look_anew mark read beyond, item?, within]
  simp only
  rw [same]

/-- Both passes through a list come to an end, and the second finds its items, `listItems`. If
    the list is cut to its own length, the first finds the same. -/
theorem exists_passes {items : List Bytes} (list : listItems bs = .ok items) :
    ∃ counted mark mark', Pass bs 0 none counted mark ∧ Pass bs 0 mark items mark' ∧
      (∀ h, header? bs = .ok h → h.total = bs.length → counted = items) := by
  unfold listItems at list
  by_cases announced : isList bs = true
  case neg =>
    rw [if_neg announced] at list
    cases list
  rw [if_pos announced] at list
  cases read : header? bs with
  | error fault =>
    -- without a header no look begins, so neither pass finds anything
    rw [read] at list
    injection list with list
    subst list
    have nothing : look bs none 0 = (none, none) := by
      unfold look outset anew
      rw [read]
    exact ⟨[], none, none, .stop nothing, .stop nothing, fun _ _ _ => rfl⟩
  | ok h =>
    rw [read] at list
    injection list with list
    subst list
    cases within : header? ((bs.drop h.size).take h.payload) with
    | ok first =>
      -- the first pass ends behind index zero, so the second begins anew like the first
      obtain ⟨m, further, pass⟩ := pass_anew none read within nofun
      obtain ⟨m', -, pass'⟩ := pass_anew (some m) read within (by
        intro m' same
        injection same with same
        exact same ▸ further)
      exact ⟨_, _, _, pass, pass', fun _ _ _ => rfl⟩
    | error fault =>
      -- the first pass finds nothing in the payload and leaves its bookmark there, from
      -- which the second goes on through all bytes
      have counted : Pass bs 0 none [] (some ⟨0, h.size⟩) := by
        refine .stop ?_
        rw [look_anew none read nofun, item?, within]
      cases here : header? (bs.drop h.size) with
      | error fault' =>
        have again : look bs (some ⟨0, h.size⟩) 0 = (none, some ⟨0, h.size⟩) := by
          rw [look_at, item?, here]
        rw [sequence_of_error here]
        exact ⟨[], _, _, counted, .stop again, fun _ _ _ => rfl⟩
      | ok first =>
        obtain ⟨m, -, pass⟩ := pass_behind (i := 0) here
        have again : look bs (some ⟨0, h.size⟩) 0 =
            (some ((bs.drop h.size).take first.total), some ⟨0, h.size⟩) := by
          rw [look_at, item?, here]
        rw [sequence_of_ok here, List.drop_drop]
        refine ⟨[], _, _, counted, .item again pass, fun h' read' exact => ?_⟩
        -- the payload of a list cut to its own length is all that is behind the header
        injection read' with same
        subst same
        have whole : (bs.drop h.size).take h.payload = bs.drop h.size := by
          refine List.take_of_length_le ?_
          rw [List.length_drop]
          unfold Header.total at exact
          omega
        rw [whole, here] at within
        cases within

/-- What two passes through a list find is what `listItems` reads of it. -/
theorem listItems_of_passes {counted items : List Bytes} {mark mark' : Option Bookmark}
    (list : isList bs = true) (first : Pass bs 0 none counted mark)
    (second : Pass bs 0 mark items mark') : listItems bs = .ok items := by
  obtain ⟨found, read⟩ : ∃ found, listItems bs = .ok found := by
    unfold listItems
    rw [if_pos list]
    cases header? bs with
    | error fault => exact ⟨_, rfl⟩
    | ok h => exact ⟨_, rfl⟩
  obtain ⟨counted', m, m', first', second', -⟩ := exists_passes read
  obtain ⟨-, rfl⟩ := first.unique first'
  obtain ⟨rfl, -⟩ := second.unique second'
  exact read

end StakeRelay.Rlp
