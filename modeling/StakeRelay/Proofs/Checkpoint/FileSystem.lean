/-
  StakeRelay.Proofs.Checkpoint.FileSystem — what an operation on files leaves alone.

  Everything stands in a directory, and every operation keeps it so. An operation gives
  another node to few locations, so a path that leads past them is read as before. A path
  may even be read as before when directories were made on its way: where nothing was,
  nothing is found behind it either.

  Main statements:
    * `Sound.makeDirectories`, `Sound.write`, `Sound.rename` — operations keep the tree
      sound;
    * `follow_cons_ok_iff` — names are followed one at a time;
    * `read_of_spares_down` — a path that was spared is read as before, up to a name in it
      that is too long.
-/

import StakeRelay.Checkpoint.FileSystem
import StakeRelay.Proofs.Checkpoint.Path

namespace StakeRelay.FileSystem

variable {fs fs' fs'' : FileSystem} {l m w : Location} {node : FileNode}

/-! ## §1. Nodes -/

/-- Taking the entries at `l` out of a table changes no `lookup` at `m ≠ l`. -/
theorem lookup_filter_ne (other : m ≠ l) (es : List (Location × FileNode)) :
    (es.filter fun e => e.1 ≠ l).lookup m = es.lookup m := by
  induction es with
  | nil => rfl
  | cons e es ih =>
    obtain ⟨here, node⟩ := e
    by_cases gone : here = l
    · have kept : (m == here) = false := beq_false_of_ne (gone ▸ other)
      rw [List.filter_cons_of_neg (by simpa using gone), ih, List.lookup_cons, kept]
    · rw [List.filter_cons_of_pos (by simpa using gone), List.lookup_cons, List.lookup_cons, ih]

/-- Once they are out, `lookup l` finds nothing. -/
theorem lookup_filter_self (l : Location) (es : List (Location × FileNode)) :
    (es.filter fun e => e.1 ≠ l).lookup l = none := by
  rw [List.lookup_eq_none_iff]
  intro e member
  have other : e.1 ≠ l := by simpa using (List.mem_filter.mp member).2
  exact bne_iff_ne.mpr other.symm

/-- `fs.erase l` leaves every location but `l` as it is. -/
theorem node?_erase_of_ne (other : m ≠ l) : (fs.erase l).node? m = fs.node? m := by
  unfold node?
  rw [erase, lookup_filter_ne other]

theorem node?_erase_self (below : l ≠ []) : (fs.erase l).node? l = none := by
  unfold node?
  rw [if_neg below, erase, lookup_filter_self]

/-- `fs.put l node` leaves every location but `l` as it is. -/
theorem node?_put_of_ne (other : m ≠ l) : (fs.put l node).node? m = fs.node? m := by
  have last : List.lookup m [(l, node)] = none := by
    rw [List.lookup_cons, beq_false_of_ne other]
    rfl
  unfold node?
  rw [put, List.lookup_append, last, Option.or_none, erase, lookup_filter_ne other]

/-- Below the root, `fs.put l node` puts `node` at `l`. -/
theorem node?_put_self (below : l ≠ []) : (fs.put l node).node? l = some node := by
  unfold node?
  rw [if_neg below, put, List.lookup_append, erase, lookup_filter_self, Option.none_or,
    List.lookup_cons_self]

/-- The root `[]` is always a directory, so what is none stands below it. -/
theorem ne_nil_of_not_directory (h : fs.node? l ≠ some .directory) : l ≠ [] := by
  intro same
  subst same
  exact h rfl

/-- Putting a node where no directory is keeps every directory. -/
theorem directory_put (free : fs.node? l ≠ some .directory) (node : FileNode) (m : Location)
    (here : fs.node? m = some .directory) : (fs.put l node).node? m = some .directory := by
  rwa [node?_put_of_ne]
  intro same
  subst same
  exact free here

/-- So does a move from `a` to `b` of which neither is a directory. -/
theorem directory_move {a b : Location} (source : fs.node? a ≠ some .directory)
    (target : fs.node? b ≠ some .directory) (node : FileNode) (m : Location)
    (here : fs.node? m = some .directory) :
    ((fs.erase a).put b node).node? m = some .directory := by
  have kept : m ≠ a := by
    intro same
    subst same
    exact source here
  have other : m ≠ b := by
    intro same
    subst same
    exact target here
  rwa [node?_put_of_ne other, node?_erase_of_ne kept]

/-! ## §2. Sound trees -/

/-- Everything stands in a directory. -/
def Sound (fs : FileSystem) : Prop :=
  ∀ l name, fs.node? (l ++ [name]) ≠ none → fs.node? l = some .directory

namespace Sound

theorem empty : Sound .empty := by
  intro l name there
  have free : FileSystem.empty.node? (l ++ [name]) = none := if_neg (by simp)
  exact absurd free there

/-- In a sound tree what stands at `l` stands in a directory, `l.dropLast`. -/
theorem dropLast (sound : Sound fs) (there : fs.node? l ≠ none) :
    fs.node? l.dropLast = some .directory := by
  rcases List.eq_nil_or_concat l with rfl | ⟨above, name, rfl⟩
  · rfl
  · rw [List.concat_eq_append] at there ⊢
    rw [List.dropLast_concat]
    exact sound above name there

/-- In a sound tree nothing stands below a free location `l`. -/
theorem free (sound : Sound fs) (free : fs.node? l = none) (name : String) :
    fs.node? (l ++ [name]) = none := by
  cases below : fs.node? (l ++ [name]) with
  | none => rfl
  | some node =>
    have directory := sound l name (by rw [below]; nofun)
    rw [free] at directory
    cases directory

/-- `fs.put l node` keeps a tree sound if `l.dropLast` is a directory and `node` takes no
    directory's place but as a directory. -/
theorem put (sound : Sound fs) (above : fs.node? l.dropLast = some .directory)
    (fits : node = .directory ∨ fs.node? l ≠ some .directory) : Sound (fs.put l node) := by
  intro m name there
  by_cases new : m ++ [name] = l
  · subst new
    rw [List.dropLast_concat] at above
    have other : m ≠ m ++ [name] := by simp
    rwa [node?_put_of_ne other]
  · rw [node?_put_of_ne new] at there
    have directory := sound m name there
    -- what stands below `l` may only stay if `l` still is a directory
    by_cases same : m = l
    · subst same
      by_cases root : m = []
      · subst root
        rfl
      · rw [node?_put_self root]
        rcases fits with rfl | other
        · rfl
        · exact absurd directory other
    · rwa [node?_put_of_ne same]

/-- `fs.erase l` keeps a tree sound where `l` is no directory. -/
theorem erase (sound : Sound fs) (other : fs.node? l ≠ some .directory) : Sound (fs.erase l) := by
  intro m name there
  by_cases gone : m ++ [name] = l
  · subst gone
    exact absurd (node?_erase_self (by simp)) there
  · rw [node?_erase_of_ne gone] at there
    have directory := sound m name there
    have kept : m ≠ l := by
      intro same
      subst same
      exact other directory
    rwa [node?_erase_of_ne kept]

end Sound

/-! ## §3. Following a path -/

theorem follow_cons (fs : FileSystem) (l : Location) (name : String) (rest : List String) :
    fs.follow l (name :: rest) =
      match fs.node? l with
      | none => .error .missing
      | some (.file _) => .error .notDirectory
      | some .directory =>
        if nameLimit < name.utf8ByteSize then .error .nameTooLong
        else if name = "." then fs.follow l rest
        else if name = ".." then fs.follow l.dropLast rest
        else fs.follow (l ++ [name]) rest := rfl

/-- Where a name leads from a directory. -/
def onward (l : Location) (name : String) : Location :=
  if name = "." then l else if name = ".." then l.dropLast else l ++ [name]

theorem onward_dot (l : Location) : onward l "." = l := if_pos rfl

/-- A name that does not lead up adds itself, and `.` adds nothing. -/
theorem onward_of_down {name : String} (noDots : name ≠ "..") :
    onward l name = l ++ [name].filter (· ≠ ".") := by
  unfold onward
  by_cases dot : name = "."
  · simp [dot]
  · simp [dot, noDots]

/-- From a directory a short name leads `onward`. -/
theorem follow_directory {name : String} (here : fs.node? l = some .directory)
    (short : name.utf8ByteSize ≤ nameLimit) (rest : List String) :
    fs.follow l (name :: rest) = fs.follow (onward l name) rest := by
  rw [follow_cons, here, onward]
  simp only [if_neg (Nat.not_lt.mpr short)]
  split
  · rfl
  · split <;> rfl

/-- Names are followed just if the first of them is short and stands in a directory, and the
    others are followed from where it leads. -/
theorem follow_cons_ok_iff {name : String} {rest : List String} :
    fs.follow l (name :: rest) = .ok m ↔
      fs.node? l = some .directory ∧ name.utf8ByteSize ≤ nameLimit ∧
        fs.follow (onward l name) rest = .ok m := by
  constructor
  · intro ends
    have ends' := ends
    rw [follow_cons] at ends'
    split at ends'
    · cases ends'
    · cases ends'
    · next here =>
      split at ends'
      · cases ends'
      · next long =>
        have short := Nat.le_of_not_lt long
        exact ⟨here, short, follow_directory here short rest ▸ ends⟩
  · rintro ⟨here, short, later⟩
    rw [follow_directory here short]
    exact later

/-- In a sound tree a name leads from a directory to a place in a directory. -/
theorem above_onward (sound : Sound fs) (here : fs.node? l = some .directory) (name : String) :
    fs.node? (onward l name).dropLast = some .directory := by
  have up := sound.dropLast (l := l) (by rw [here]; nofun)
  unfold onward
  split
  · exact up
  · split
    · exact sound.dropLast (by rw [up]; nofun)
    · rw [List.dropLast_concat]
      exact here

/-- Names that can be followed from a location in a directory end in a directory: `m.dropLast`
    is one. -/
theorem follow_above (sound : Sound fs) {names : List String}
    (above : fs.node? l.dropLast = some .directory) (ends : fs.follow l names = .ok m) :
    fs.node? m.dropLast = some .directory := by
  induction names generalizing l with
  | nil =>
    cases ends
    exact above
  | cons name rest ih =>
    obtain ⟨here, -, later⟩ := follow_cons_ok_iff.mp ends
    exact ih (above_onward sound here name) later

/-- Names that can be followed still can, to the same `m`, while no directory goes. -/
theorem follow_of_directories {names : List String}
    (keeps : ∀ l, fs.node? l = some .directory → fs'.node? l = some .directory)
    (ends : fs.follow l names = .ok m) : fs'.follow l names = .ok m := by
  induction names generalizing l with
  | nil => exact ends
  | cons name rest ih =>
    obtain ⟨here, short, later⟩ := follow_cons_ok_iff.mp ends
    exact follow_cons_ok_iff.mpr ⟨keeps l here, short, ih later⟩

/-- Names without `..` lead from `l` to themselves behind `l`, with each `.` left out. -/
theorem follow_eq {names : List String} (down : ".." ∉ names) (ends : fs.follow l names = .ok m) :
    m = l ++ names.filter (· ≠ ".") := by
  induction names generalizing l with
  | nil =>
    cases ends
    simp
  | cons name rest ih =>
    obtain ⟨-, -, later⟩ := follow_cons_ok_iff.mp ends
    rw [ih (List.not_mem_of_not_mem_cons down) later,
      onward_of_down (List.ne_of_not_mem_cons down).symm, List.append_assoc, ← List.filter_append]
    rfl

variable {path : String}

/-- A path is located by following `Path.steps path` from the root. -/
theorem locate_eq_ok (h : fs.locate path = .ok l) :
    pathFault? path = none ∧ path ≠ "" ∧ fs.follow [] (Path.steps path) = .ok l := by
  unfold locate at h
  split at h
  · cases h
  · rename_i sane
    split at h
    · cases h
    · rename_i some
      exact ⟨sane, some, h⟩

/-- In a sound tree a path is located in a directory. -/
theorem locate_above (sound : Sound fs) (h : fs.locate path = .ok l) :
    fs.node? l.dropLast = some .directory :=
  follow_above sound rfl (locate_eq_ok h).2.2

/-- A path that is located stays so while no directory goes. -/
theorem locate_of_directories
    (keeps : ∀ l, fs.node? l = some .directory → fs'.node? l = some .directory)
    (h : fs.locate path = .ok l) : fs'.locate path = .ok l := by
  obtain ⟨sane, some, ends⟩ := locate_eq_ok h
  unfold locate
  rw [sane]
  simp only [if_neg some]
  exact follow_of_directories keeps ends

/-- A path without `..` is located at `Path.place path`. -/
theorem locate_place (down : ".." ∉ Path.steps path) (h : fs.locate path = .ok l) :
    l = Path.place path := follow_eq down (locate_eq_ok h).2.2

/-! ## §4. Operations -/

/-- A write puts the content at the location of its path, where no directory is, or it changes
    nothing. -/
theorem write_cases (fs : FileSystem) (path : String) (content : Bytes) :
    (∃ l, fs.locate path = .ok l ∧ fs.node? l ≠ some .directory ∧
      fs.write path content = (.ok (), fs.put l (.file content))) ∨
    ∃ fault, fs.write path content = (.error fault, fs) := by
  unfold write
  split
  · exact .inr ⟨_, rfl⟩
  rename_i l found
  split
  · exact .inr ⟨_, rfl⟩
  · rename_i here
    exact .inl ⟨l, found, by rw [here]; nofun, rfl⟩
  · rename_i here
    have other : fs.node? l ≠ some .directory := by rw [here]; nofun
    split
    · exact .inl ⟨l, found, other, rfl⟩
    · exact .inr ⟨_, rfl⟩
    · exact .inr ⟨_, rfl⟩

/-- A path that is located where no directory is can be written. -/
theorem write_located (sound : Sound fs) (found : fs.locate path = .ok l)
    (free : fs.node? l ≠ some .directory) (content : Bytes) :
    fs.write path content = (.ok (), fs.put l (.file content)) := by
  have above := locate_above sound found
  unfold write
  rw [found]
  rcases here : fs.node? l with _ | _ | held
  · simp only [here, above]
  · exact absurd here free
  · simp only [here]

/-- What was written under a path without `..` stands at `Path.place path`. -/
theorem node?_written {content : Bytes} (down : ".." ∉ Path.steps path)
    (done : fs.write path content = (.ok (), fs')) :
    fs'.node? (Path.place path) = some (.file content) := by
  rcases write_cases fs path content with ⟨l, found, free, wrote⟩ | ⟨fault, wrote⟩
  · obtain ⟨-, rfl⟩ := Prod.mk.inj (done.symm.trans wrote)
    obtain rfl := locate_place down found
    exact node?_put_self (ne_nil_of_not_directory free)
  · cases done.symm.trans wrote

/-- A move takes a file from `a` and puts its content at `b`, where no directory is, or it
    changes nothing. -/
theorem rename_cases (fs : FileSystem) (source target : String) :
    (∃ a b content, fs.locate source = .ok a ∧ fs.locate target = .ok b ∧
      fs.node? a = some (.file content) ∧ fs.node? b ≠ some .directory ∧
      fs.rename source target = (.ok (), (fs.erase a).put b (.file content))) ∨
    ∃ fault, fs.rename source target = (.error fault, fs) := by
  unfold rename
  split
  · exact .inr ⟨_, rfl⟩
  rename_i a found
  split
  · exact .inr ⟨_, rfl⟩
  rename_i b place
  split
  · exact .inr ⟨_, rfl⟩
  · exact .inr ⟨_, rfl⟩
  · rename_i content here
    split
    · exact .inr ⟨_, rfl⟩
    · rename_i other
      exact .inl ⟨a, b, content, found, place, here, other, rfl⟩

theorem makeFrom_cons (fs : FileSystem) (l : Location) (name : String) (rest : List String) :
    fs.makeFrom l (name :: rest) =
      if nameLimit < name.utf8ByteSize then (.error .nameTooLong, fs)
      else if name = "." then fs.makeFrom l rest
      else if name = ".." then fs.makeFrom l.dropLast rest
      else
        match fs.node? (l ++ [name]) with
        | some .directory => fs.makeFrom (l ++ [name]) rest
        | some (.file _) => (.error (if rest = [] then .exists else .notDirectory), fs)
        | none => (fs.put (l ++ [name]) .directory).makeFrom (l ++ [name]) rest := rfl

/-- A name of more than `nameLimit` bytes is not made. -/
theorem makeFrom_long {name : String} {rest : List String}
    (long : nameLimit < name.utf8ByteSize) :
    fs.makeFrom l (name :: rest) = (.error .nameTooLong, fs) := by
  rw [makeFrom_cons, if_pos long]

/-- A name that is free is made a directory, and the rest is made from there. -/
theorem makeFrom_free {name : String} {rest : List String}
    (short : name.utf8ByteSize ≤ nameLimit) (noDot : name ≠ ".") (noDots : name ≠ "..")
    (free : fs.node? (l ++ [name]) = none) :
    fs.makeFrom l (name :: rest) =
      (fs.put (l ++ [name]) .directory).makeFrom (l ++ [name]) rest := by
  rw [makeFrom_cons, if_neg (Nat.not_lt.mpr short), if_neg noDot, if_neg noDots, free]

/-- A path that can be looked at at all is made from the root along `Path.steps path`. -/
theorem makeDirectories_eq {path : String} (whole : pathFault? path = none) :
    fs.makeDirectories path = fs.makeFrom [] (Path.steps path) := by
  unfold makeDirectories
  rw [whole]

namespace Sound

theorem write (sound : Sound fs) (path : String) (content : Bytes) :
    Sound (fs.write path content).2 := by
  rcases write_cases fs path content with ⟨l, found, free, done⟩ | ⟨fault, done⟩
  · rw [done]
    exact sound.put (locate_above sound found) (.inr free)
  · rwa [done]

theorem rename (sound : Sound fs) (source target : String) :
    Sound (fs.rename source target).2 := by
  rcases rename_cases fs source target with
    ⟨a, b, content, -, place, file, free, done⟩ | ⟨fault, done⟩
  · rw [done]
    have other : fs.node? a ≠ some .directory := by rw [file]; nofun
    have above := locate_above sound place
    -- the source is a file, so it is not the directory of the target
    have kept : b.dropLast ≠ a := by
      intro same
      subst same
      exact other above
    refine (sound.erase other).put (by rwa [node?_erase_of_ne kept]) (.inr ?_)
    by_cases same : b = a
    · subst same
      rw [node?_erase_self (ne_nil_of_not_directory other)]
      nofun
    · rwa [node?_erase_of_ne same]
  · rwa [done]

theorem makeFrom (sound : Sound fs) (here : fs.node? l = some .directory) (names : List String) :
    Sound (fs.makeFrom l names).2 := by
  induction names generalizing fs l with
  | nil => exact sound
  | cons name rest ih =>
    rw [makeFrom_cons]
    split
    · exact sound
    split
    · exact ih sound here
    split
    · exact ih sound (sound.dropLast (by rw [here]; nofun))
    split
    · rename_i there
      exact ih sound there
    · exact sound
    · have above : fs.node? (l ++ [name]).dropLast = some .directory := by
        rwa [List.dropLast_concat]
      exact ih (sound.put above (.inl rfl)) (node?_put_self (by simp))

theorem makeDirectories (sound : Sound fs) (path : String) :
    Sound (fs.makeDirectories path).2 := by
  unfold FileSystem.makeDirectories
  split
  · exact sound
  · exact sound.makeFrom rfl _

end Sound

/-! ## §5. Spared locations -/

/-- No node on the way to a location changes, unless it is a directory that was made above
    the location. -/
def Spares (w : Location) (fs fs' : FileSystem) : Prop :=
  ∀ l, l <+: w → fs'.node? l = fs.node? l ∨
    (l ≠ w ∧ fs.node? l = none ∧ fs'.node? l = some .directory)

namespace Spares

theorem refl (w : Location) (fs : FileSystem) : Spares w fs fs := fun _ _ => .inl rfl

theorem trans (first : Spares w fs fs') (second : Spares w fs' fs'') : Spares w fs fs'' := by
  intro l above
  rcases second l above with same | ⟨other, free, made⟩
  · rw [same]
    exact first l above
  · rcases first l above with same | ⟨-, -, earlier⟩
    · exact .inr ⟨other, same ▸ free, made⟩
    · rw [earlier] at free
      cases free

/-- `fs.put l node` spares `w` unless `l` is `w` or above it. -/
theorem put (past : ¬ l <+: w) : Spares w fs (fs.put l node) := by
  intro m above
  refine .inl (node?_put_of_ne ?_)
  intro same
  subst same
  exact past above

/-- So does `fs.erase l`. -/
theorem erase (past : ¬ l <+: w) : Spares w fs (fs.erase l) := by
  intro m above
  refine .inl (node?_erase_of_ne ?_)
  intro same
  subst same
  exact past above

/-- A directory made at a free `l` spares every `w` but `l` itself. -/
theorem put_directory (free : fs.node? l = none) (other : l ≠ w) :
    Spares w fs (fs.put l .directory) := by
  intro m above
  by_cases same : m = l
  · subst same
    have below : m ≠ [] := ne_nil_of_not_directory (by rw [free]; nofun)
    exact .inr ⟨other, free, node?_put_self below⟩
  · exact .inl (node?_put_of_ne same)

/-- A write spares every `w` that is not at `Path.place path` or below it. -/
theorem write {path : String} (down : ".." ∉ Path.steps path)
    (past : ¬ Path.place path <+: w) (content : Bytes) : Spares w fs (fs.write path content).2 := by
  rcases write_cases fs path content with ⟨l, found, -, done⟩ | ⟨fault, done⟩
  · rw [done, locate_place down found]
    exact put past
  · rw [done]
    exact refl w fs

/-- A move spares every `w` that is not at one of its two places or below it. -/
theorem rename {source target : String} (down : ".." ∉ Path.steps source)
    (down' : ".." ∉ Path.steps target) (past : ¬ Path.place source <+: w)
    (past' : ¬ Path.place target <+: w) : Spares w fs (fs.rename source target).2 := by
  rcases rename_cases fs source target with
    ⟨a, b, content, found, place, -, -, done⟩ | ⟨fault, done⟩
  · rw [done, locate_place down found, locate_place down' place]
    exact (erase past).trans (put past')
  · rw [done]
    exact refl w fs

/-- Making directories spares `w` unless it is one of them: `l ++ names`, without each `.`, does
    not pass through it. -/
theorem makeFrom {names : List String} (down : ".." ∉ names)
    (past : ¬ w <+: l ++ names.filter (· ≠ ".")) : Spares w fs (fs.makeFrom l names).2 := by
  induction names generalizing fs l with
  | nil => exact refl w fs
  | cons name rest ih =>
    have noDots : ".." ≠ name := List.ne_of_not_mem_cons down
    have down := List.not_mem_of_not_mem_cons down
    rw [makeFrom_cons]
    split
    · exact refl w fs
    split
    · rename_i dot
      rw [List.filter_cons_of_neg (by simpa using dot)] at past
      exact ih down past
    rename_i noDot
    rw [if_neg noDots.symm]
    rw [List.filter_cons_of_pos (by simpa using noDot), List.append_cons] at past
    split
    · exact ih down past
    · exact refl w fs
    · rename_i free
      have other : l ++ [name] ≠ w := by
        intro same
        subst same
        exact past (List.prefix_append _ _)
      exact (put_directory free other).trans (ih down past)

end Spares

/-! ## §6. Reading -/

/-- The content of the file at a location. -/
def contentAt (fs : FileSystem) (l : Location) : Except FileFault Bytes :=
  match fs.node? l with
  | none => .error .missing
  | some .directory => .error .isDirectory
  | some (.file content) => .ok content

/-- The content of the file that names lead to from a location. -/
def readFrom (fs : FileSystem) (l : Location) (names : List String) : Except FileFault Bytes :=
  match fs.follow l names with
  | .error fault => .error fault
  | .ok m => fs.contentAt m

theorem read_eq (fs : FileSystem) (path : String) :
    fs.read path =
      match pathFault? path with
      | some fault => .error fault
      | none => if path = "" then .error .missing else fs.readFrom [] (Path.steps path) := by
  unfold read locate
  cases pathFault? path with
  | some fault => rfl
  | none =>
    by_cases empty : path = ""
    · simp only [if_pos empty]
    · simp only [if_neg empty]
      rfl

/-- A path that can be looked at at all is read from the root along `Path.steps path`. -/
theorem read_eq_readFrom {path : String} (whole : pathFault? path = none) (some : path ≠ "") :
    fs.read path = fs.readFrom [] (Path.steps path) := by
  rw [read_eq, whole]
  exact if_neg some

/-- A name is looked up in the directory `l`, and `.` is that directory itself. -/
theorem readFrom_directory {name : String} {rest : List String}
    (here : fs.node? l = some .directory) (noDots : name ≠ "..")
    (short : name.utf8ByteSize ≤ nameLimit) :
    fs.readFrom l (name :: rest) = fs.readFrom (l ++ [name].filter (· ≠ ".")) rest := by
  unfold readFrom
  rw [follow_directory here short, onward_of_down noDots]

/-- A name of more than `nameLimit` bytes is refused as soon as a directory is found in front of
    it. -/
theorem readFrom_long {name : String} {rest : List String} (here : fs.node? l = some .directory)
    (long : nameLimit < name.utf8ByteSize) :
    fs.readFrom l (name :: rest) = .error .nameTooLong := by
  unfold readFrom
  rw [follow_cons, here]
  simp only [if_pos long]

/-- Nothing is found behind a free location: the fault is `.missing`. -/
theorem readFrom_free (free : fs.node? l = none) (names : List String) :
    fs.readFrom l names = .error .missing := by
  unfold readFrom
  cases names with
  | nil => simp only [follow, contentAt, free]
  | cons name rest => simp only [follow_cons, free]

/-- Reading names from a location that was spared gives what it gave before. Only a long
    name that could not be reached before may be found too long now. -/
theorem readFrom_of_spares (sound : Sound fs) {names : List String} (down : ".." ∉ names)
    (spares : Spares (l ++ names.filter (· ≠ ".")) fs fs') :
    fs'.readFrom l names = fs.readFrom l names ∨
      (∃ name ∈ names, nameLimit < name.utf8ByteSize) ∧
        fs.readFrom l names = .error .missing ∧ fs'.readFrom l names = .error .nameTooLong := by
  -- induction on the names; the spared location is what they lead to from `l`
  induction names generalizing l with
  | nil =>
    rcases spares l (by simp) with same | ⟨other, -, -⟩
    · exact .inl (by simp only [readFrom, follow, contentAt, same])
    · exact absurd (by simp) other
  | cons name rest ih =>
    have noDots : name ≠ ".." := (List.ne_of_not_mem_cons down).symm
    have later := ih (l := l ++ [name].filter (· ≠ ".")) (List.not_mem_of_not_mem_cons down) (by
      rwa [List.append_assoc, ← List.filter_append])
    rcases spares l (List.prefix_append _ _) with same | ⟨-, free, made⟩
    · cases here : fs.node? l with
      | none => exact .inl (by rw [readFrom_free here, readFrom_free (same.trans here)])
      | some node =>
        cases node with
        | file content => exact .inl (by simp only [readFrom, follow_cons, same, here])
        | directory =>
          by_cases long : nameLimit < name.utf8ByteSize
          · exact .inl (by rw [readFrom_long here long, readFrom_long (same.trans here) long])
          · have short := Nat.le_of_not_lt long
            rw [readFrom_directory here noDots short,
              readFrom_directory (same.trans here) noDots short]
            exact later.imp_right (And.imp_left fun ⟨n, member, long⟩ =>
              ⟨n, List.mem_cons_of_mem _ member, long⟩)
    -- the directory is new: nothing was found behind it before, and nothing is now
    · rw [readFrom_free free]
      by_cases long : nameLimit < name.utf8ByteSize
      · exact .inr ⟨⟨name, List.mem_cons_self, long⟩, rfl, readFrom_long made long⟩
      · have behind : fs.node? (l ++ [name].filter (· ≠ ".")) = none := by
          by_cases dot : name = "."
          · simpa [dot] using free
          · simpa [dot] using sound.free free name
        rw [readFrom_directory made noDots (Nat.le_of_not_lt long)]
        rw [readFrom_free behind] at later
        exact later.imp_right (And.imp_left fun ⟨n, member, long⟩ =>
          ⟨n, List.mem_cons_of_mem _ member, long⟩)

/-- A path that was spared is read as before, or a long name in it is found now that was
    not reached before. -/
theorem read_of_spares_down (sound : Sound fs) {path : String} (down : ".." ∉ Path.steps path)
    (spares : Spares (Path.place path) fs fs') :
    fs'.read path = fs.read path ∨
      (∃ name ∈ Path.steps path, nameLimit < name.utf8ByteSize) ∧
        fs.read path = .error .missing ∧ fs'.read path = .error .nameTooLong := by
  rw [read_eq, read_eq]
  cases pathFault? path with
  | some fault => exact .inl rfl
  | none =>
    by_cases empty : path = ""
    · simp only [if_pos empty, true_or]
    · simp only [if_neg empty]
      exact readFrom_of_spares sound down spares

end StakeRelay.FileSystem
