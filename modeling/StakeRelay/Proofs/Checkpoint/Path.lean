/-
  StakeRelay.Proofs.Checkpoint.Path — where the path of a file leads.

  A text that names a file is taken apart at its last slash: the directory in front of it
  and the name behind it. The place that a text leads to is the list of its names without
  the dots, so the parent of a file leads to the place of its directory and the sibling
  to a neighbour in the same directory.

  Main statements:
    * `place_join` — a name below a directory;
    * `parent_join` — the parent of a file is its directory;
    * `sibling_join` — the sibling of a file stands beside it;
    * `down_parent`, `down_sibling_join` — neither leads up if the directory is not given so.
-/

import StakeRelay.Checkpoint.Durable

namespace StakeRelay.Path

/-! ## §1. Stretches between slashes -/

/-- A slash ends the stretch before it. -/
theorem stretches_slash (s : List Char) (p : Nat) (a : List Char) :
    stretches s p ('/' :: a) = ⟨s.reverse, p⟩ :: stretches [] (p + 1) a := if_pos rfl

/-- Any other character belongs to the stretch. -/
theorem stretches_other {c : Char} (other : c ≠ '/') (s : List Char) (p : Nat) (a : List Char) :
    stretches s p (c :: a) = stretches (c :: s) (p + 1) a := if_neg other

/-- The stretches of `a ++ '/' :: b` are those of `a` and then those of `b`, counted on from the
    slash. -/
theorem stretches_append (s : List Char) (p : Nat) (a b : List Char) :
    stretches s p (a ++ '/' :: b) = stretches s p a ++ stretches [] (p + a.length + 1) b := by
  induction a generalizing s p with
  | nil => exact stretches_slash s p b
  | cons c a ih =>
    have place : p + 1 + a.length + 1 = p + (c :: a).length + 1 := by
      rw [List.length_cons]
      omega
    rw [List.cons_append]
    by_cases slash : c = '/'
    · subst slash
      rw [stretches_slash, stretches_slash, ih, place, List.cons_append]
    · rw [stretches_other slash, stretches_other slash, ih, place]

/-- A text without a slash is one stretch. -/
theorem stretches_solid {b : List Char} (solid : '/' ∉ b) (s : List Char) (p : Nat) :
    stretches s p b = [⟨s.reverse ++ b, p + b.length⟩] := by
  induction b generalizing s p with
  | nil => simp [stretches]
  | cons c b ih =>
    have other : c ≠ '/' := fun same => solid (same ▸ List.mem_cons_self)
    have rest := ih (fun member => solid (List.mem_cons_of_mem _ member)) (c :: s) (p + 1)
    rw [stretches_other other, rest]
    simp [Nat.add_assoc, Nat.add_comm 1]

/-- The names of stretches do not depend on where the counting starts. -/
theorem names_stretches (s : List Char) (p q : Nat) (a : List Char) :
    (stretches s p a).map Component.name = (stretches s q a).map Component.name := by
  induction a generalizing s p q with
  | nil => rfl
  | cons c a ih =>
    by_cases slash : c = '/'
    · subst slash
      rw [stretches_slash, stretches_slash, List.map_cons, List.map_cons, ih [] (p + 1) (q + 1)]
    · rw [stretches_other slash, stretches_other slash]
      exact ih _ _ _

/-- A text that is cut behind a stretch `c` has the stretches up to `c`. -/
theorem stretches_take {s : List Char} {p : Nat} {a : List Char} {xs ys : List Component}
    {c : Component} (whole : stretches s p a = xs ++ c :: ys) :
    ∃ n ≤ a.length, c.stop = p + n ∧ stretches s p (a.take n) = xs ++ [c] := by
  -- induction on the characters of the path; a slash closes a stretch
  induction a generalizing s p xs with
  | nil =>
    obtain ⟨rfl, rest⟩ : xs = [] ∧ c :: ys = [⟨s.reverse, p⟩] := by
      cases xs with
      | nil => exact ⟨rfl, whole.symm⟩
      | cons x xs => simp [stretches] at whole
    obtain ⟨rfl, -⟩ := List.cons.inj rest
    exact ⟨0, Nat.le_refl 0, rfl, rfl⟩
  | cons d a ih =>
    by_cases slash : d = '/'
    · subst slash
      rw [stretches_slash] at whole
      cases xs with
      | nil =>
        obtain ⟨rfl, -⟩ := List.cons.inj whole
        exact ⟨0, Nat.zero_le _, rfl, rfl⟩
      | cons x xs =>
        obtain ⟨rfl, later⟩ := List.cons.inj whole
        obtain ⟨n, le, stop, cut⟩ := ih later
        refine ⟨n + 1, Nat.succ_le_succ le, by omega, ?_⟩
        rw [List.take_succ_cons, stretches_slash, cut]
        rfl
    · rw [stretches_other slash] at whole
      obtain ⟨n, le, stop, cut⟩ := ih whole
      refine ⟨n + 1, Nat.succ_le_succ le, by omega, ?_⟩
      rw [List.take_succ_cons, stretches_other slash, cut]

/-! ## §2. Names and places -/

/-- The names in a text, dots included. -/
def named (a : List Char) : List String :=
  ((stretches [] 0 a).map fun c => String.ofList c.name).filter (· ≠ "")

/-- The place that a text leads to. -/
def place (path : String) : List String := (steps path).filter (· ≠ ".")

/-- The names of `a ++ '/' :: b` are those of `a` and those of `b`. -/
theorem named_append (a b : List Char) : named (a ++ '/' :: b) = named a ++ named b := by
  have names : ∀ (s : List Char) (p q : Nat), (stretches s p b).map (fun c => String.ofList c.name) =
      (stretches s q b).map (fun c => String.ofList c.name) := by
    intro s p q
    have same := congrArg (List.map String.ofList) (names_stretches s p q b)
    rwa [List.map_map, List.map_map] at same
  unfold named
  rw [stretches_append, List.map_append, List.filter_append, names [] _ 0]

@[simp] theorem named_nil : named [] = [] := rfl

/-- A text without a slash is one name. -/
theorem named_solid {b : List Char} (solid : '/' ∉ b) (some : b ≠ []) :
    named b = [String.ofList b] := by
  unfold named
  rw [stretches_solid solid]
  simp [some]

theorem steps_of_open {path : String} (h : path.toList.getLast? ≠ some '/') :
    steps path = named path.toList := if_neg h

theorem steps_of_slash {path : String} (h : path.toList.getLast? = some '/') :
    steps path = named path.toList ++ ["."] := if_pos h

/-- `place path` is the names of the path without each `.`. -/
theorem place_eq (path : String) : place path = (named path.toList).filter (· ≠ ".") := by
  unfold place
  by_cases h : path.toList.getLast? = some '/'
  · rw [steps_of_slash h, List.filter_append]
    simp
  · rw [steps_of_open h]

/-! ## §3. A name below a directory -/

/-- A name that a file can have: it is neither empty nor dots, and holds no slash. -/
structure IsName (name : String) : Prop where
  some : name ≠ ""
  solid : '/' ∉ name.toList
  noDot : name ≠ "."
  noDots : name ≠ ".."

theorem IsName.toList_ne_nil {name : String} (n : IsName name) : name.toList ≠ [] :=
  fun none => n.some (String.toList_inj.mp none)

theorem IsName.relative {name : String} (n : IsName name) : isAbsolute name = false := by
  refine decide_eq_false fun slash => n.solid ?_
  exact List.mem_of_mem_head? slash

/-- A name is the only name in itself. -/
theorem IsName.named {name : String} (n : IsName name) : named name.toList = [name] := by
  rw [named_solid n.solid n.toList_ne_nil, String.ofList_toList]

theorem getLast?_ne_slash {name : String} (n : IsName name) (a : List Char) :
    (a ++ name.toList).getLast? ≠ some '/' := by
  intro slash
  rw [List.getLast?_append, Option.or_eq_some_iff] at slash
  rcases slash with last | ⟨none, -⟩
  · exact n.solid (List.mem_of_getLast? last)
  · exact n.toList_ne_nil (List.getLast?_eq_none_iff.mp none)

/-- `join directory name` has `name` behind a slash and the names of `directory` in front of it,
    unless the directory is empty. -/
theorem toList_join (directory : String) {name : String} (n : IsName name) :
    (directory = "" ∧ join directory name = name) ∨
      ∃ a, (join directory name).toList = a ++ '/' :: name.toList ∧
        named a = named directory.toList := by
  unfold join
  rw [n.relative, if_neg Bool.false_ne_true]
  cases last : directory.toList.getLast? with
  | none =>
    have none : directory = "" := String.toList_inj.mp (List.getLast?_eq_none_iff.mp last)
    subst none
    exact .inl ⟨rfl, by simp⟩
  | some c =>
    obtain ⟨a, whole⟩ := List.getLast?_eq_some_iff.mp last
    by_cases slash : c = '/'
    · subst slash
      refine .inr ⟨a, ?_, ?_⟩
      · simp [whole]
      · rw [whole, named_append, named_nil, List.append_nil]
    · refine .inr ⟨directory.toList, ?_, rfl⟩
      simp [slash]

/-- The last of the steps of `join directory name` is `name`. -/
theorem steps_join {directory name : String} (n : IsName name) :
    steps (join directory name) = named directory.toList ++ [name] := by
  rcases toList_join directory n with ⟨rfl, whole⟩ | ⟨a, whole, names⟩
  · rw [whole, steps_of_open (by simpa using getLast?_ne_slash n []), n.named]
    rfl
  · have last : (join directory name).toList.getLast? ≠ some '/' := by
      rw [whole, List.append_cons]
      exact getLast?_ne_slash n (a ++ ['/'])
    rw [steps_of_open last, whole, named_append, n.named, names]

/-- `join directory name` has its place in that of `directory`: `place directory ++ [name]`. -/
theorem place_join {directory name : String} (n : IsName name) :
    place (join directory name) = place directory ++ [name] := by
  rw [place, steps_join n, List.filter_append, place_eq]
  simp [n.noDot]

/-- `place ++ [name]` is not above `place`. -/
theorem not_above (place : List String) (name : String) : ¬ place ++ [name] <+: place := by
  intro above
  have := above.length_le
  rw [List.length_append, List.length_singleton] at this
  omega

/-- Two names in one directory are not above one another. -/
theorem not_onward {place : List String} {name other : String} (apart : name ≠ other) :
    ¬ place ++ [name] <+: place ++ [other] := by
  intro onward
  have whole := onward.eq_of_length (by simp)
  exact apart (List.singleton_inj.mp (List.append_inj_right whole rfl))

/-! ## §4. Parents and siblings -/

/-- Whether a stretch counts as a component. -/
def counts (relative : Bool) (c : Component) : Bool :=
  c.name ≠ [] && (c.name ≠ ['.'] || (relative && c.stop = 1))

theorem components_eq (path : String) :
    components path = (stretches [] 0 path.toList).filter (counts !isAbsolute path) := rfl

/-- The names of stretches that lead somewhere. -/
def leading (cs : List Component) : List String :=
  ((cs.map fun c => String.ofList c.name).filter (· ≠ "")).filter (· ≠ ".")

/-- A path leads where its stretches do, each `.` and empty one left out. -/
theorem place_eq_leading (path : String) : place path = leading (stretches [] 0 path.toList) :=
  place_eq path

/-- Stretches that do not count lead nowhere. -/
theorem leading_of_not_counts {relative : Bool} {cs : List Component}
    (h : ∀ c ∈ cs, counts relative c = false) : leading cs = [] := by
  unfold leading
  rw [List.filter_filter, List.filter_eq_nil_iff]
  intro name member
  obtain ⟨c, among, rfl⟩ := List.mem_map.mp member
  have idle := h c among
  unfold counts at idle
  -- a stretch does not count if it is empty, or a dot that is not the first of a relative path
  by_cases none : c.name = []
  · simp [none]
  · by_cases dot : c.name = ['.']
    · simp [dot]
    · simp [none, dot] at idle

/-- `leading` goes over one part after the other. -/
theorem leading_append (cs ds : List Component) : leading (cs ++ ds) = leading cs ++ leading ds := by
  unfold leading
  rw [List.map_append, List.filter_append, List.filter_append]

/-- A text for the directory of a file: it leads to the same place by names of the same
    directory. -/
structure IsParent (parent directory : String) : Prop where
  names : ∀ name ∈ steps parent, name ∈ named directory.toList ∨ name = "."
  place : place parent = place directory

/-- The text up to the `last` stretch that counts is a path of the directory. -/
theorem isParent_take {a : List Char} {directory : String} {relative : Bool}
    {more : List Component} {last : Component} (names : named a = named directory.toList)
    (counted : (stretches [] 0 a).filter (counts relative) = more ++ [last]) :
    last.stop ≤ a.length ∧ IsParent (String.ofList (a.take last.stop)) directory := by
  -- the stretches behind the last one that counts are cut off; they lead nowhere
  obtain ⟨before, rest, whole, -, tail⟩ := List.filter_eq_append_iff.mp counted
  obtain ⟨between, behind, rfl, -, -, idle⟩ := List.filter_eq_cons_iff.mp tail
  rw [← List.append_assoc] at whole
  obtain ⟨n, le, stop, cut⟩ := stretches_take whole
  obtain rfl : last.stop = n := by omega
  have within : ∀ name ∈ named (a.take last.stop), name ∈ named directory.toList := by
    intro name member
    rw [← names, named, whole]
    rw [named, cut] at member
    refine (List.Sublist.subset (List.Sublist.filter _ (List.Sublist.map _ ?_))) member
    exact List.Sublist.append_left (List.Sublist.cons_cons _ (List.nil_sublist behind)) _
  refine ⟨le, fun name member => ?_, ?_⟩
  · by_cases slash : (a.take last.stop).getLast? = some '/'
    · rw [steps_of_slash (by simpa using slash), List.mem_append, String.toList_ofList] at member
      exact member.imp (within name) List.mem_singleton.mp
    · rw [steps_of_open (by simpa using slash), String.toList_ofList] at member
      exact .inl (within name member)
  · have none : leading behind = [] :=
      leading_of_not_counts fun c member => by simpa using List.filter_eq_nil_iff.mp idle c member
    calc place (String.ofList (a.take last.stop))
        = leading ((before ++ between) ++ [last]) := by
          rw [place_eq_leading, String.toList_ofList, cut]
      _ = leading ((before ++ between) ++ [last] ++ behind) := by
          rw [leading_append _ behind, none, List.append_nil]
      _ = place (String.ofList a) := by
          rw [place_eq_leading, String.toList_ofList, whole, List.append_assoc]
          rfl
      _ = place directory := by
          rw [place_eq, place_eq, String.toList_ofList, names]

/-- The components of `join directory name` are those of the directory and then `name`. -/
theorem components_join (directory : String) {name : String} (n : IsName name) :
    ∃ a stop, (join directory name).toList.take a.length = a ∧ named a = named directory.toList ∧
      components (join directory name) =
        (stretches [] 0 a).filter (counts !isAbsolute (join directory name)) ++
          [⟨name.toList, stop⟩] := by
  have counted : ∀ relative stop, [⟨name.toList, stop⟩].filter (counts relative) =
      [⟨name.toList, stop⟩] := by
    intro relative stop
    have noDot : name.toList ≠ ['.'] := fun same => n.noDot (String.toList_inj.mp same)
    exact List.filter_cons_of_pos (by simp [counts, n.some, noDot])
  rcases toList_join directory n with ⟨rfl, whole⟩ | ⟨a, whole, names⟩
  · refine ⟨[], 0 + name.toList.length, rfl, rfl, ?_⟩
    rw [components_eq, whole, stretches_solid n.solid]
    exact counted _ _
  · refine ⟨a, 0 + a.length + 1 + name.toList.length, ?_, names, ?_⟩
    · rw [whole, List.take_left]
    · rw [components_eq, whole, stretches_append, stretches_solid n.solid, List.filter_append]
      exact congrArg _ (counted _ _)

/-- `parent? (join directory name)` is a path of the directory. -/
theorem parent_join (directory : String) {name : String} (n : IsName name) :
    ∃ parent, parent? (join directory name) = some parent ∧ IsParent parent directory := by
  obtain ⟨a, stop, cut, names, whole⟩ := components_join directory n
  unfold parent?
  rw [whole, List.reverse_append]
  -- without an earlier component the parent is the root or the working directory
  cases earlier : ((stretches [] 0 a).filter
      (counts !isAbsolute (join directory name))).reverse with
  | nil =>
    have none : place directory = [] := by
      rw [place_eq, ← names]
      exact leading_of_not_counts fun c member => by
        simpa using List.filter_eq_nil_iff.mp (List.reverse_eq_nil_iff.mp earlier) c member
    refine ⟨_, rfl, ?_⟩
    split
    · exact ⟨fun name member => .inr (List.mem_singleton.mp member), none.symm⟩
    · exact ⟨fun name member => absurd member List.not_mem_nil, none.symm⟩
  | cons previous more =>
    obtain ⟨le, isParent⟩ := isParent_take names (List.reverse_eq_cons_iff.mp earlier)
    refine ⟨_, rfl, ?_⟩
    have shorter : (join directory name).toList.take previous.stop = a.take previous.stop := by
      rw [← cut, List.take_take, Nat.min_eq_left le]
    rwa [shorter]

/-- The parent of a path of three components is the text up to the end of the second. -/
theorem parent_of_components {path : String} {first second third : Component}
    (found : components path = [first, second, third]) :
    parent? path = some (String.ofList (path.toList.take second.stop)) := by
  unfold parent?
  rw [found]
  rfl

/-- `fileName? (join directory name)` is the name. -/
theorem fileName_join {directory name : String} (n : IsName name) :
    fileName? (join directory name) = some name := by
  obtain ⟨a, stop, -, -, whole⟩ := components_join directory n
  have noDot : ¬ (name.toList = ['.'] ∨ name.toList = ['.', '.']) := by
    intro either
    rcases either with same | same
    · exact n.noDot (String.toList_inj.mp same)
    · exact n.noDots (String.toList_inj.mp same)
  unfold fileName?
  rw [whole, List.getLast?_concat]
  show (if name.toList = ['.'] ∨ name.toList = ['.', '.'] then none
    else some (String.ofList name.toList)) = some name
  rw [if_neg noDot, String.ofList_toList]

/-- The sibling of `join directory name` is `name ++ ".tmp"` in the same directory. -/
theorem sibling_join (directory : String) {name : String} (n : IsName name) :
    ∃ parent, parent? (join directory name) = some parent ∧ IsParent parent directory ∧
      DurableCheckpoint.siblingOf (join directory name) = join parent (name ++ ".tmp") := by
  obtain ⟨parent, found, isParent⟩ := parent_join directory n
  refine ⟨parent, found, isParent, ?_⟩
  unfold DurableCheckpoint.siblingOf withSuffix withFileName
  rw [fileName_join n, found]
  rfl

/-- A sibling has another name. -/
theorem sibling_ne (name : String) : name ++ ".tmp" ≠ name := by
  intro same
  have longer := congrArg String.length same
  simp at longer

/-- And its name is one. -/
theorem IsName.sibling {name : String} (n : IsName name) : IsName (name ++ ".tmp") := by
  have whole : (name ++ ".tmp").toList = name.toList ++ ['.', 't', 'm', 'p'] := String.toList_append
  have long : 4 ≤ (name ++ ".tmp").toList.length := by
    rw [whole, List.length_append]
    exact Nat.le_add_left 4 _
  have other : ∀ s : String, s.toList.length < 4 → name ++ ".tmp" ≠ s := by
    intro s short same
    rw [same] at long
    omega
  refine ⟨other _ (by decide), ?_, other _ (by decide), other _ (by decide)⟩
  rw [whole, List.mem_append]
  intro either
  rcases either with member | member
  · exact n.solid member
  · exact absurd member (by decide)

/-! ## §5. On the way down -/

section Down

variable {directory name : String}

/-- Below a directory without `..`, the parent of a file has none either, and its sibling stands
    in it. -/
theorem down_parent (n : IsName name) (down : ".." ∉ named directory.toList) :
    ∃ parent, parent? (join directory name) = some parent ∧ place parent = place directory ∧
      ".." ∉ steps parent ∧
      DurableCheckpoint.siblingOf (join directory name) = join parent (name ++ ".tmp") := by
  obtain ⟨parent, found, isParent, sibling⟩ := sibling_join directory n
  refine ⟨parent, found, isParent.place, fun member => ?_, sibling⟩
  rcases isParent.names _ member with dots | dot
  · exact down dots
  · exact absurd dot (by decide)

theorem down_named {path : String} (down : ".." ∉ steps path) : ".." ∉ named path.toList := by
  unfold steps at down
  split at down
  · exact fun dots => down (List.mem_append_left _ dots)
  · exact down

/-- `join directory name` has no `..` where the directory has none. -/
theorem down_join (n : IsName name) (down : ".." ∉ named directory.toList) :
    ".." ∉ steps (join directory name) := by
  rw [steps_join n, List.mem_append, List.mem_singleton]
  rintro (dots | dots)
  · exact down dots
  · exact n.noDots dots.symm

/-- The sibling's place is `place directory ++ [name ++ ".tmp"]`. -/
theorem place_sibling_join (directory : String) (n : IsName name) :
    place (DurableCheckpoint.siblingOf (join directory name)) =
      place directory ++ [name ++ ".tmp"] := by
  obtain ⟨parent, -, isParent, sibling⟩ := sibling_join directory n
  rw [sibling, place_join n.sibling, isParent.place]

theorem down_sibling_join (n : IsName name) (down : ".." ∉ named directory.toList) :
    ".." ∉ steps (DurableCheckpoint.siblingOf (join directory name)) := by
  obtain ⟨parent, -, -, down, sibling⟩ := down_parent n down
  rw [sibling]
  exact down_join n.sibling (down_named down)

end Down

end StakeRelay.Path
