/-
  StakeRelay.Proofs.Checkpoint.Targets — where a path leads, and what is left alone there.

  A path leads to one place only, whatever stands on its way: `Path.target` follows its names
  and takes one back for each `..`. What an operation on files changes can therefore be told
  from the targets of its paths. `FileSystem.Leaves l fs fs'` says that no directory goes and
  that nothing changes at `l`, but that a directory may be made there.

  The file that stands at a target may be out of reach for the path itself. A path without
  `..` reaches it; one that leads up again needs the directories that it leads through
  (`FileSystem.Finds`).

  Main statements:
    * `FileSystem.locate_target` — a path leads to one place only;
    * `Path.target_sibling_ne` — a file and its sibling stand in two places;
    * `FileSystem.Leaves.makeFrom`, `FileSystem.Leaves.write` — what the operations leave alone;
    * `FileSystem.fileAt_of_read`, `FileSystem.fileAt_of_missing` — what is read is the file at
      the target.
-/

import StakeRelay.Proofs.Checkpoint.FileSystem

namespace StakeRelay

/-! ## §1. Where a path leads -/

namespace Path

/-- The place that names lead to from a place, if each of them leads on. -/
def walked (l : Location) : List String → Location
  | [] => l
  | name :: rest =>
    if name = "." then walked l rest
    else if name = ".." then walked l.dropLast rest
    else walked (l ++ [name]) rest

/-- The place that a path leads to, if it leads anywhere. -/
def target (path : String) : Location := walked [] (place path)

/-- A walk goes on from where its first name leads. -/
theorem walked_cons (l : Location) (name : String) (rest : List String) :
    walked l (name :: rest) = walked (FileSystem.onward l name) rest := by
  unfold FileSystem.onward
  rw [walked]
  split
  · rfl
  · split <;> rfl

/-- The name `.` does not count. -/
theorem walked_filter (l : Location) (names : List String) :
    walked l (names.filter (· ≠ ".")) = walked l names := by
  induction names generalizing l with
  | nil => rfl
  | cons name rest ih =>
    by_cases dot : name = "."
    · rw [List.filter_cons_of_neg (by simpa using dot), ih, walked_cons, dot,
        FileSystem.onward_dot]
    · rw [List.filter_cons_of_pos (by simpa using dot), walked_cons, walked_cons, ih]

/-- Names without `..` lead down one by one. -/
theorem walked_eq (l : Location) {names : List String} (down : ".." ∉ names) :
    walked l names = l ++ names.filter (· ≠ ".") := by
  induction names generalizing l with
  | nil => exact (List.append_nil l).symm
  | cons name rest ih =>
    have noDots : name ≠ ".." := (List.ne_of_not_mem_cons down).symm
    rw [walked_cons, ih _ (List.not_mem_of_not_mem_cons down), FileSystem.onward_of_down noDots,
      List.append_assoc, ← List.filter_append]
    rfl

/-- The target of a path without `..` is its place. -/
theorem target_of_down {path : String} (down : ".." ∉ steps path) : target path = place path := by
  rw [target, place, walked_filter, walked_eq [] down, List.nil_append]

theorem walked_concat (l : Location) (names : List String) {name : String} (n : IsName name) :
    walked l (names ++ [name]) = walked l names ++ [name] := by
  induction names generalizing l with
  | nil =>
    simp only [List.nil_append, walked, if_neg n.noDot, if_neg n.noDots]
  | cons first rest ih =>
    rw [List.cons_append, walked_cons, walked_cons, ih]

theorem target_join (directory : String) {name : String} (n : IsName name) :
    target (join directory name) = target directory ++ [name] := by
  unfold target
  rw [place_join n, walked_concat _ _ n]

theorem target_sibling (directory : String) {name : String} (n : IsName name) :
    target (DurableCheckpoint.siblingOf (join directory name)) =
      target directory ++ [name ++ ".tmp"] := by
  obtain ⟨parent, -, isParent, sibling⟩ := sibling_join directory n
  rw [sibling, target_join parent n.sibling]
  unfold target
  rw [isParent.place]

/-- No stretch between slashes holds a slash. -/
theorem solid_of_stretches {s : List Char} {p : Nat} {a : List Char} {c : Component}
    (solid : '/' ∉ s) (member : c ∈ stretches s p a) : '/' ∉ c.name := by
  induction a generalizing s p with
  | nil =>
    rw [List.mem_singleton.mp member]
    simpa using solid
  | cons d a ih =>
    by_cases slash : d = '/'
    · subst slash
      rw [stretches_slash] at member
      rcases List.mem_cons.mp member with rfl | later
      · simpa using solid
      · exact ih List.not_mem_nil later
    · rw [stretches_other slash] at member
      refine ih ?_ member
      rw [List.mem_cons]
      rintro (same | earlier)
      · exact slash same.symm
      · exact solid earlier

/-- The place of a path with a file name, `fileName? path = some name`, ends with the name. -/
theorem place_of_fileName {path name : String} (found : fileName? path = some name) :
    IsName name ∧ ∃ above, place path = above ++ [name] := by
  unfold fileName? at found
  split at found
  · cases found
  rename_i c last
  split at found
  · cases found
  rename_i noDots
  obtain rfl : String.ofList c.name = name := Option.some.inj found
  obtain ⟨noDot, noDots⟩ := not_or.mp noDots
  obtain ⟨more, counted⟩ := List.getLast?_eq_some_iff.mp last
  -- the stretches behind the last one that counts are empty or dots, and lead nowhere
  rw [components_eq] at counted
  obtain ⟨before, rest, whole, -, tail⟩ := List.filter_eq_append_iff.mp counted
  obtain ⟨between, behind, rfl, -, some, idle⟩ := List.filter_eq_cons_iff.mp tail
  have leads : place path = leading (before ++ between) ++ leading [c] ++ leading behind := by
    rw [place_eq_leading, whole, ← leading_append, ← leading_append]
    simp
  have none : leading behind = [] :=
    leading_of_not_counts fun c member => by simpa using List.filter_eq_nil_iff.mp idle c member
  have filled : c.name ≠ [] := by
    intro empty
    simp [counts, empty] at some
  have n : IsName (String.ofList c.name) := by
    have ne {text : String} (other : c.name ≠ text.toList) : String.ofList c.name ≠ text := by
      rintro rfl
      exact other String.toList_ofList.symm
    refine ⟨ne filled, ?_, ne noDot, ne noDots⟩
    rw [String.toList_ofList]
    refine solid_of_stretches (s := []) (p := 0) (a := path.toList) List.not_mem_nil ?_
    rw [whole]
    simp
  refine ⟨n, leading (before ++ between), ?_⟩
  rw [leads, none, List.append_nil]
  refine congrArg _ ?_
  simp [leading, n.some, n.noDot]

/-- A file and its sibling (`siblingOf`) stand in two places, whatever the path. -/
theorem target_sibling_ne (path : String) :
    target (DurableCheckpoint.siblingOf path) ≠ target path := by
  unfold DurableCheckpoint.siblingOf withSuffix withFileName
  cases found : fileName? path with
  | none =>
    -- without a name the sibling is below the path
    have n : IsName ".tmp" := ⟨by decide, by decide, by decide, by decide⟩
    show target (join path ("" ++ ".tmp")) ≠ target path
    rw [show "" ++ ".tmp" = ".tmp" from rfl, target_join path n]
    simp
  | some name =>
    obtain ⟨n, above, ends⟩ := place_of_fileName found
    have own : target path = walked [] above ++ [name] := by
      rw [target, ends, walked_concat [] above n]
    rw [own]
    have other : name ++ ".tmp" ≠ name := sibling_ne name
    split
    · rw [Option.getD_some, target_join _ n.sibling]
      exact fun same => other (List.singleton_inj.mp (List.append_inj' same rfl).2)
    · rw [Option.getD_some, target_join _ n.sibling]
      exact fun same => other (List.singleton_inj.mp (List.append_inj' same rfl).2)

end Path

namespace FileSystem

variable {fs fs' fs'' : FileSystem} {l m : Location} {path : String} {content : Bytes}

/-- Names lead to one place only, which is `Path.walked`. -/
theorem follow_walked {names : List String} (ends : fs.follow l names = .ok m) :
    m = Path.walked l names := by
  induction names generalizing l with
  | nil =>
    cases ends
    rfl
  | cons name rest ih =>
    obtain ⟨-, -, later⟩ := follow_cons_ok_iff.mp ends
    rw [Path.walked_cons]
    exact ih later

/-- A path leads to one place only, its `target`. -/
theorem locate_target (found : fs.locate path = .ok l) : l = Path.target path := by
  rw [Path.target, Path.place, Path.walked_filter]
  exact follow_walked (locate_eq_ok found).2.2

/-- What can be read is a file at the `target` of the path. -/
theorem read_eq_ok (whole : fs.read path = .ok content) :
    fs.locate path = .ok (Path.target path) ∧
      fs.node? (Path.target path) = some (.file content) := by
  unfold read at whole
  split at whole
  · cases whole
  rename_i l found
  obtain rfl := locate_target found
  split at whole
  · cases whole
  · cases whole
  · rename_i there
    cases whole
    exact ⟨found, there⟩

/-! ## §2. What is left alone -/

/-- No directory goes, and nothing changes at the location but that a directory may be made
    there. -/
structure Leaves (l : Location) (fs fs' : FileSystem) : Prop where
  directories : ∀ m, fs.node? m = some .directory → fs'.node? m = some .directory
  here : fs'.node? l = fs.node? l ∨ fs.node? l = none ∧ fs'.node? l = some .directory

namespace Leaves

theorem refl (l : Location) (fs : FileSystem) : Leaves l fs fs := ⟨fun _ there => there, .inl rfl⟩

theorem trans (first : Leaves l fs fs') (second : Leaves l fs' fs'') : Leaves l fs fs'' := by
  refine ⟨fun m there => second.directories m (first.directories m there), ?_⟩
  rcases second.here with same | ⟨free, made⟩
  · rw [same]
    exact first.here
  · rcases first.here with same | ⟨-, earlier⟩
    · exact .inr ⟨same ▸ free, made⟩
    · rw [earlier] at free
      cases free

/-- A directory is made in a free place, which leaves every `l` alone (`Leaves`). -/
theorem put_directory (free : fs.node? m = none) : Leaves l fs (fs.put m .directory) := by
  have other : fs.node? m ≠ some .directory := by rw [free]; nofun
  refine ⟨directory_put other .directory, ?_⟩
  by_cases same : l = m
  · subst same
    exact .inr ⟨free, node?_put_self (ne_nil_of_not_directory other)⟩
  · exact .inl (node?_put_of_ne same)

theorem makeFrom (l : Location) (fs : FileSystem) (m : Location) (names : List String) :
    Leaves l fs (fs.makeFrom m names).2 := by
  induction names generalizing fs m with
  | nil => exact refl l fs
  | cons name rest ih =>
    rw [makeFrom_cons]
    split
    · exact refl l fs
    split
    · exact ih fs m
    split
    · exact ih fs m.dropLast
    split
    · exact ih fs (m ++ [name])
    · exact refl l fs
    · rename_i free
      exact (put_directory free).trans (ih _ _)

theorem write (other : l ≠ Path.target path) (content : Bytes) :
    Leaves l fs (fs.write path content).2 := by
  rcases write_cases fs path content with ⟨m, found, free, done⟩ | ⟨fault, done⟩
  · rw [done]
    obtain rfl := locate_target found
    exact ⟨directory_put free _, .inl (node?_put_of_ne other)⟩
  · rw [done]
    exact refl l fs

/-- What could be read is read as before. -/
theorem read (leaves : Leaves (Path.target path) fs fs') (whole : fs.read path = .ok content) :
    fs'.read path = .ok content := by
  obtain ⟨found, file⟩ := read_eq_ok whole
  have still := locate_of_directories leaves.directories found
  have same : fs'.node? (Path.target path) = some (.file content) := by
    rcases leaves.here with same | ⟨free, -⟩
    · exact same.trans file
    · rw [file] at free
      cases free
  unfold FileSystem.read
  rw [still]
  simp only [same]

end Leaves

/-- No file stands where the path leads. -/
def Unwritten (fs : FileSystem) (path : String) : Prop :=
  ∀ content, fs.node? (Path.target path) ≠ some (.file content)

theorem Unwritten.left (unwritten : fs.Unwritten path) (leaves : Leaves (Path.target path) fs fs') :
    fs'.Unwritten path := by
  intro content file
  rcases leaves.here with same | ⟨-, made⟩
  · exact unwritten content (same.symm.trans file)
  · rw [made] at file
    cases file

/-! ## §3. The file at a target -/

/-- The content of the file at a location. A directory there is no file. -/
def fileAt (fs : FileSystem) (l : Location) : Except FileFault Bytes :=
  match fs.node? l with
  | some (.file content) => .ok content
  | _ => .error .missing

/-- What is left alone holds the same file. -/
theorem Leaves.fileAt (leaves : Leaves l fs fs') : fs'.fileAt l = fs.fileAt l := by
  unfold FileSystem.fileAt
  rcases leaves.here with same | ⟨free, made⟩
  · rw [same]
  · rw [free, made]

/-- The path reaches the file that stands at its target. This is only asked for where the path
    leads up again, through directories that may be missing. -/
def Finds (fs : FileSystem) (path : String) : Prop :=
  ".." ∈ Path.steps path → ∀ content, fs.node? (Path.target path) = some (.file content) →
    fs.locate path = .ok (Path.target path)

/-- A path without `..` reaches what there is. -/
theorem Finds.of_down (down : ".." ∉ Path.steps path) : fs.Finds path :=
  fun dots => absurd dots down

/-- A path still reaches a file that was left alone, for no directory went (`Leaves`). -/
theorem Finds.left (finds : fs.Finds path) (leaves : Leaves (Path.target path) fs fs') :
    fs'.Finds path := by
  intro dots content file
  rcases leaves.here with same | ⟨-, made⟩
  · exact locate_of_directories leaves.directories (finds dots content (same.symm.trans file))
  · rw [made] at file
    cases file

/-- A path that can be read `Finds` the file. -/
theorem Finds.of_read (whole : fs.read path = .ok content) : fs.Finds path :=
  fun _ _ _ => (read_eq_ok whole).1

/-- Nothing stands below a free location. -/
theorem Sound.free_below (sound : fs.Sound) (free : fs.node? l = none) (names : List String) :
    fs.node? (l ++ names) = none := by
  induction names generalizing l with
  | nil => rwa [List.append_nil]
  | cons name rest ih =>
    rw [List.append_cons]
    exact ih (sound.free free name)

/-- Where names without `..` are found missing, nothing stands. -/
theorem free_of_missing (sound : fs.Sound) {names : List String} (down : ".." ∉ names)
    (missing : fs.follow l names = .error .missing) :
    fs.node? (l ++ names.filter (· ≠ ".")) = none := by
  induction names generalizing l with
  | nil => cases missing
  | cons name rest ih =>
    have noDots : name ≠ ".." := (List.ne_of_not_mem_cons down).symm
    have down := List.not_mem_of_not_mem_cons down
    cases here : fs.node? l with
    | none => exact sound.free_below here _
    | some node =>
      cases node with
      | file content =>
        rw [follow_cons, here] at missing
        cases missing
      | directory =>
        by_cases short : name.utf8ByteSize ≤ nameLimit
        · rw [follow_directory here short, onward_of_down noDots] at missing
          have free := ih down missing
          rwa [List.append_assoc, ← List.filter_append] at free
        · rw [follow_cons, here] at missing
          simp only [if_pos (Nat.lt_of_not_le short)] at missing
          cases missing

/-- A path without `..` that leads nowhere because something is missing has a free place. -/
theorem free_of_unlocated (sound : fs.Sound) (down : ".." ∉ Path.steps path) (some : path ≠ "")
    (missing : fs.locate path = .error .missing) : fs.node? (Path.place path) = none := by
  have followed : fs.follow [] (Path.steps path) = .error .missing := by
    unfold locate pathFault? at missing
    split at missing
    · rename_i fault sane
      -- a path that is not looked at is refused for another reason
      obtain rfl : fault = .missing := by injection missing
      split at sane
      · cases sane
      split at sane <;> cases sane
    · rwa [if_neg some] at missing
  exact free_of_missing sound down followed

/-- What a path that `Finds` its place finds missing is not there (`Unwritten`). -/
theorem unwritten_of_missing (sound : fs.Sound) (finds : fs.Finds path)
    (missing : fs.read path = .error .missing) : fs.Unwritten path := by
  intro content file
  have reached (found : fs.locate path = .ok (Path.target path)) : False := by
    unfold read at missing
    rw [found] at missing
    simp only [file] at missing
    cases missing
  by_cases dots : ".." ∈ Path.steps path
  · exact reached (finds dots content file)
  · cases found : fs.locate path with
    | ok l => exact reached (locate_target found ▸ found)
    | error fault =>
      unfold read at missing
      rw [found] at missing
      obtain rfl : fault = .missing := by injection missing
      -- the empty path leads to the root, which is no file
      by_cases empty : path = ""
      · subst empty
        cases (show some FileNode.directory = some (.file content) from file)
      · rw [Path.target_of_down dots, free_of_unlocated sound dots empty found] at file
        cases file

/-- What is read is the file at the target, `fileAt (Path.target path)`. -/
theorem fileAt_of_read (whole : fs.read path = .ok content) :
    fs.fileAt (Path.target path) = .ok content := by
  unfold fileAt
  rw [(read_eq_ok whole).2]

/-- Where a path finds nothing there is no file at its target. -/
theorem fileAt_of_missing (sound : fs.Sound) (finds : fs.Finds path)
    (missing : fs.read path = .error .missing) :
    fs.fileAt (Path.target path) = .error .missing := by
  have unwritten := unwritten_of_missing sound finds missing
  unfold fileAt
  split
  · rename_i content file
    exact absurd file (unwritten content)
  · rfl

end FileSystem

end StakeRelay
