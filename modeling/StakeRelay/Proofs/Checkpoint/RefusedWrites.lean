/-
  StakeRelay.Proofs.Checkpoint.RefusedWrites — what a refused write leaves to a reader.

  A write that is refused may have made directories and written the sibling of its file. No
  file is read otherwise for that. But a path is followed name by name: where a directory was
  missing, the names behind it were not looked at, and once the directory is made they are.
  If one of them is too long to be a name, a file that was found missing before cannot be
  read any more. This is the only difference.

  A sibling that was left behind is seen by no question at all. Two file systems that differ
  only in what is left in the siblings answer any questions alike, and each of them again
  differs from the other only there.

  Main statements:
    * `Interrupted.read_join` — what an interrupted replacement leaves to a reader;
    * `SameBesides.answer`, `SameBesides.replies_eq` — what stands in the siblings is not seen;
    * `refused_writes_are_unseen` — a refused write and a sibling that was left behind;
    * `long_name_shows_a_refused_write` — the one difference that can be seen.
-/

import StakeRelay.Proofs.Checkpoint.Agreement

namespace StakeRelay

/-! ## §1. Refused writes -/

namespace DurableCheckpoint

open FileSystem (nameLimit)

/-- A name of the directory is too long to be found. -/
def HasLongName (directory : String) : Prop :=
  ∃ name ∈ Path.named directory.toList, nameLimit < name.utf8ByteSize

/-- How a file in the directory is read once more: as before, or, behind a long name, as one
    that cannot be read where it was missing before. -/
def Reread (directory : String) (before after : Except FileFault Bytes) : Prop :=
  after = before ∨
    HasLongName directory ∧ before = .error .missing ∧ after = .error .nameTooLong

/-- What becomes of the answer that is drawn from it. -/
def Undone {α : Type} (directory path : String) (missing : α) (before after : Except Failure α) :
    Prop :=
  after = before ∨ HasLongName directory ∧ before = .ok missing ∧
    after = .error (.storage (.read path .nameTooLong))

/-- What a refused write leaves: its failure is one of the storage, and both reads give what
    they gave before. -/
structure LeavesUndone (directory : String) (fs : FileSystem) (failure : Failure)
    (fs' : FileSystem) : Prop where
  storage : ∃ fault, failure = .storage fault
  cursor : Undone directory (inDirectory directory).cursorPath 0
    ((inDirectory directory).readCursor fs) ((inDirectory directory).readCursor fs')
  snapshot : Undone directory (inDirectory directory).snapshotPath []
    ((inDirectory directory).readSnapshot fs) ((inDirectory directory).readSnapshot fs')

section Refused

variable {fs fs' : FileSystem} {directory name other : String} {content : Bytes} {failure : Failure}

/-- A file that is `Reread` is `Undone` in what it is read as, if a missing file reads as
    `missing` and a long name as a fault. -/
theorem Reread.undone {α : Type} {path : String} {missing : α} {before after : Except FileFault Bytes}
    (again : Reread directory before after) {answer : Except FileFault Bytes → Except Failure α}
    (none : answer (.error .missing) = .ok missing)
    (long : answer (.error .nameTooLong) = .error (.storage (.read path .nameTooLong))) :
    Undone directory path missing (answer before) (answer after) := by
  rcases again with rfl | ⟨name, rfl, rfl⟩
  · exact .inl rfl
  · exact .inr ⟨name, none, long⟩

/-- An interrupted replacement of `name` leaves another file of the directory to be `Reread`. -/
theorem Interrupted.read_join (n : Path.IsName name) (m : Path.IsName other)
    (down : ".." ∉ Path.named directory.toList) (apart : name ++ ".tmp" ≠ other)
    (short : other.utf8ByteSize ≤ nameLimit) (sound : fs.Sound)
    (left : Interrupted fs (Path.join directory name) fs') :
    Reread directory (fs.read (Path.join directory other)) (fs'.read (Path.join directory other)) := by
  have spares : FileSystem.Spares (Path.place (Path.join directory other)) fs fs' := by
    rw [Path.place_join m]
    exact left.spares_join n down (Path.not_above _ _) (Path.not_onward apart)
  refine (FileSystem.read_of_spares_down sound (Path.down_join m down) spares).imp_right
    (And.imp_left fun ⟨step, member, long⟩ => ?_)
  rw [Path.steps_join m, List.mem_append, List.mem_singleton] at member
  rcases member with within | rfl
  · exact ⟨step, within, long⟩
  · omega

/-- A `replace` that is refused leaves both files of the directory to their readers
    (`LeavesUndone`). -/
theorem leavesUndone_of_replace (n : Path.IsName name)
    (down : ".." ∉ Path.named directory.toList) (sound : fs.Sound)
    (apart : name ++ ".tmp" ≠ cursorName) (apart' : name ++ ".tmp" ≠ snapshotName)
    (refused : replace fs (Path.join directory name) content = (.error failure, fs')) :
    LeavesUndone directory fs failure fs' := by
  rcases replace_cases fs (Path.join directory name) content with
    ⟨made, moved, -, -, done⟩ | ⟨fault, left, interrupted, done⟩
  · cases refused.symm.trans done
  · obtain ⟨same, rfl⟩ := Prod.mk.inj (refused.symm.trans done)
    have cursor := interrupted.read_join n isName_cursorName down apart (by decide) sound
    have snapshot := interrupted.read_join n isName_snapshotName down apart' (by decide) sound
    exact ⟨⟨fault, Except.error.inj same⟩, cursor.undone rfl rfl, snapshot.undone rfl rfl⟩

theorem cursorPath_inDirectory (directory : String) :
    (inDirectory directory).cursorPath = Path.join directory cursorName := rfl

theorem answer_writeCursor_eq (c : DurableCheckpoint) (height : UInt64) (fs : FileSystem) :
    c.answer (.writeCursor height) fs = replace fs c.cursorPath (contentOfCursor height) := rfl

/-- A file whose directory cannot be made is not written: `.storage (.makeDirectory parent
    fault)`. -/
theorem replace_unmade {path parent : String} {fault : FileFault}
    (found : Path.parent? path = some parent) (some : parent ≠ "")
    (unmade : fs.makeDirectories parent = (.error fault, fs')) :
    replace fs path content = (.error (.storage (.makeDirectory parent fault)), fs') := by
  unfold replace makeParent
  simp only [found, if_neg some, unmade]

end Refused

/-! ## §2. What is left in the siblings -/

/-- Where the siblings of the two files stand. -/
def siblings (directory : String) : List Location :=
  [Path.place directory ++ [cursorName ++ ".tmp"], Path.place directory ++ [snapshotName ++ ".tmp"]]

/-- No directory stands in a sibling. -/
def Unblocked (directory : String) (fs : FileSystem) : Prop :=
  ∀ l ∈ siblings directory, fs.node? l ≠ some .directory

/-- The file systems are the same besides the siblings, where files may stand or not. -/
structure SameBesides (directory : String) (fs gs : FileSystem) : Prop where
  same : ∀ l ∉ siblings directory, gs.node? l = fs.node? l
  unblocked : Unblocked directory fs
  unblocked' : Unblocked directory gs

/-- A sibling stands right below the place of the directory. -/
theorem length_of_mem_siblings {directory : String} {l : Location} (member : l ∈ siblings directory) :
    l.length = (Path.place directory).length + 1 := by
  simp only [siblings, List.mem_cons, List.not_mem_nil, or_false] at member
  rcases member with rfl | rfl <;> simp

/-- What is on the way to the directory is no member of `siblings directory`. -/
theorem not_mem_siblings_of_above {directory : String} {l : Location}
    (above : l <+: Path.place directory) : l ∉ siblings directory := by
  intro member
  have := length_of_mem_siblings member
  have := above.length_le
  omega

/-- Neither is a file of the directory whose name is not that of a sibling. -/
theorem not_mem_siblings {directory name : String} (other : name ≠ cursorName ++ ".tmp")
    (other' : name ≠ snapshotName ++ ".tmp") : Path.place directory ++ [name] ∉ siblings directory := by
  simp [siblings, other, other']

section Unblocked

variable {fs : FileSystem} {directory : String} {l : Location} {node : FileNode}

/-- An unblocked sibling is not the root. -/
theorem Unblocked.ne_nil (unblocked : Unblocked directory fs) (sibling : l ∈ siblings directory) :
    l ≠ [] := FileSystem.ne_nil_of_not_directory (unblocked l sibling)

/-- Siblings stay `Unblocked` where no directory is put in one of them. -/
theorem Unblocked.put (unblocked : Unblocked directory fs)
    (fits : l ∉ siblings directory ∨ node ≠ .directory) : Unblocked directory (fs.put l node) := by
  intro m sibling
  by_cases here : m = l
  · subst here
    rw [FileSystem.node?_put_self (unblocked.ne_nil sibling)]
    intro directory
    exact fits.elim (fun past => past sibling) fun file => file (Option.some.inj directory)
  · rw [FileSystem.node?_put_of_ne here]
    exact unblocked m sibling

/-- And where something is taken out. -/
theorem Unblocked.erase (unblocked : Unblocked directory fs) : Unblocked directory (fs.erase l) := by
  intro m sibling
  by_cases here : m = l
  · subst here
    rw [FileSystem.node?_erase_self (unblocked.ne_nil sibling)]
    nofun
  · rw [FileSystem.node?_erase_of_ne here]
    exact unblocked m sibling

end Unblocked

namespace SameBesides

variable {fs gs : FileSystem} {directory name path : String} {l : Location} {node : FileNode}

/-- The same `node` is put in both, and they are still the same besides the siblings. -/
theorem put (same : SameBesides directory fs gs) (below : l ≠ [])
    (fits : l ∉ siblings directory ∨ node ≠ .directory) :
    SameBesides directory (fs.put l node) (gs.put l node) where
  same m past := by
    by_cases here : m = l
    · rw [here, FileSystem.node?_put_self below, FileSystem.node?_put_self below]
    · rw [FileSystem.node?_put_of_ne here, FileSystem.node?_put_of_ne here, same.same m past]
  unblocked := same.unblocked.put fits
  unblocked' := same.unblocked'.put fits

/-- `fs.put l (.file content)` at a sibling `l` makes no difference besides the siblings. -/
theorem left {content : Bytes} (unblocked : Unblocked directory fs)
    (sibling : l ∈ siblings directory) : SameBesides directory fs (fs.put l (.file content)) where
  same m past := by
    have other : m ≠ l := by
      rintro rfl
      exact past sibling
    exact FileSystem.node?_put_of_ne other
  unblocked := unblocked
  unblocked' := unblocked.put (.inr nofun)

/-- `fs.erase l` at a sibling `l` of both makes none either. -/
theorem erase (same : SameBesides directory fs gs) (sibling : l ∈ siblings directory) :
    SameBesides directory (fs.erase l) (gs.erase l) where
  same m past := by
    have other : m ≠ l := by
      rintro rfl
      exact past sibling
    rw [FileSystem.node?_erase_of_ne other, FileSystem.node?_erase_of_ne other, same.same m past]
  unblocked := same.unblocked.erase
  unblocked' := same.unblocked'.erase

/-- Names below the directory are followed alike (`FileSystem.follow`): the way to them is past
    the siblings. -/
theorem follow (same : SameBesides directory fs gs) {names : List String}
    (down : ".." ∉ names) (within : l ++ names.filter (· ≠ ".") <+: Path.place directory) :
    gs.follow l (names ++ [name]) = fs.follow l (names ++ [name]) := by
  -- induction on the names; at each of them only the place so far is looked at
  induction names generalizing l with
  | nil =>
    have here := same.same l (not_mem_siblings_of_above (by simpa using within))
    rw [List.nil_append, FileSystem.follow_cons, FileSystem.follow_cons, here]
    rfl
  | cons first rest ih =>
    have noDots : first ≠ ".." := (List.ne_of_not_mem_cons down).symm
    have down := List.not_mem_of_not_mem_cons down
    have here := same.same l
      (not_mem_siblings_of_above ((List.prefix_append _ _).trans within))
    rw [List.cons_append, FileSystem.follow_cons, FileSystem.follow_cons, here]
    by_cases dot : first = "."
    · rw [List.filter_cons_of_neg (by simpa using dot)] at within
      simp only [dot, if_true, ih down within]
    · rw [List.filter_cons_of_pos (by simpa using dot), List.append_cons] at within
      simp only [if_neg dot, if_neg noDots, ih down within]

/-- A file of the directory is located alike. -/
theorem locate {parent : String} (same : SameBesides directory fs gs) (n : Path.IsName name)
    (down : ".." ∉ Path.named parent.toList) (place : Path.place parent = Path.place directory) :
    gs.locate (Path.join parent name) = fs.locate (Path.join parent name) := by
  have whole : [] ++ (Path.named parent.toList).filter (· ≠ ".") = Path.place directory := by
    rw [List.nil_append, ← Path.place_eq, place]
  unfold FileSystem.locate
  rw [Path.steps_join n, same.follow down (whole ▸ List.prefix_refl _)]

/-- And so is its sibling. -/
theorem locate_sibling (same : SameBesides directory fs gs) (n : Path.IsName name)
    (down : ".." ∉ Path.named directory.toList) :
    gs.locate (siblingOf (Path.join directory name)) =
      fs.locate (siblingOf (Path.join directory name)) := by
  obtain ⟨parent, -, place, down', sibling⟩ := Path.down_parent n down
  rw [sibling]
  exact same.locate n.sibling (Path.down_named down') place

/-- `Path.join directory name` is read alike, unless it is a sibling itself. -/
theorem read (same : SameBesides directory fs gs) (n : Path.IsName name)
    (down : ".." ∉ Path.named directory.toList)
    (other : Path.place directory ++ [name] ∉ siblings directory) :
    gs.read (Path.join directory name) = fs.read (Path.join directory name) := by
  unfold FileSystem.read
  rw [same.locate n down rfl]
  cases found : fs.locate (Path.join directory name) with
  | error fault => rfl
  | ok l =>
    have place := FileSystem.locate_place (Path.down_join n down) found
    rw [Path.place_join n] at place
    show (match gs.node? l with | _ => _) = _
    rw [place, same.same _ other]

end SameBesides

/-- The outcomes are the same, and so is what they leave besides the siblings. -/
def Alongside {ε : Type} (directory : String) (ours theirs : Except ε Unit × FileSystem) : Prop :=
  theirs.1 = ours.1 ∧ SameBesides directory ours.2 theirs.2

/-- Outcomes `Alongside` each other are the same fault or both `.ok ()`, over trees that are the
    same besides the siblings. -/
theorem Alongside.cases {ε : Type} {directory : String} {ours theirs : Except ε Unit × FileSystem}
    (along : Alongside directory ours theirs) :
    ∃ fs gs, SameBesides directory fs gs ∧
      ((∃ fault, ours = (.error fault, fs) ∧ theirs = (.error fault, gs)) ∨
        ours = (.ok (), fs) ∧ theirs = (.ok (), gs)) := by
  obtain ⟨outcome, fs⟩ := ours
  obtain ⟨outcome', gs⟩ := theirs
  obtain ⟨rfl, left⟩ : outcome' = outcome ∧ SameBesides directory fs gs := along
  cases outcome' with
  | error fault => exact ⟨fs, gs, left, .inl ⟨fault, rfl, rfl⟩⟩
  | ok _ => exact ⟨fs, gs, left, .inr ⟨rfl, rfl⟩⟩

namespace SameBesides

variable {fs gs : FileSystem} {directory name path : String} {l : Location}

/-- The directories on the way to the directory are made alike. -/
theorem makeFrom (same : SameBesides directory fs gs) {names : List String} (down : ".." ∉ names)
    (within : l ++ names.filter (· ≠ ".") <+: Path.place directory) :
    Alongside directory (fs.makeFrom l names) (gs.makeFrom l names) := by
  induction names generalizing fs gs l with
  | nil => exact ⟨rfl, same⟩
  | cons first rest ih =>
    have noDots : first ≠ ".." := (List.ne_of_not_mem_cons down).symm
    have down := List.not_mem_of_not_mem_cons down
    rw [FileSystem.makeFrom_cons, FileSystem.makeFrom_cons]
    by_cases long : nameLimit < first.utf8ByteSize
    · rw [if_pos long, if_pos long]
      exact ⟨rfl, same⟩
    rw [if_neg long, if_neg long]
    by_cases dot : first = "."
    · rw [List.filter_cons_of_neg (by simpa using dot)] at within
      rw [if_pos dot, if_pos dot]
      exact ih same down within
    rw [if_neg dot, if_neg dot, if_neg noDots, if_neg noDots]
    rw [List.filter_cons_of_pos (by simpa using dot), List.append_cons] at within
    have past := not_mem_siblings_of_above ((List.prefix_append _ _).trans within)
    rw [same.same _ past]
    cases fs.node? (l ++ [first]) with
    | none => exact ih (same.put (by simp) (.inl past)) down within
    | some node =>
      cases node with
      | directory => exact ih same down within
      | file content => exact ⟨rfl, same⟩

/-- So the directory itself is. -/
theorem makeDirectories {parent : String} (same : SameBesides directory fs gs)
    (down : ".." ∉ Path.steps parent) (place : Path.place parent = Path.place directory) :
    Alongside directory (fs.makeDirectories parent) (gs.makeDirectories parent) := by
  unfold FileSystem.makeDirectories
  cases FileSystem.pathFault? parent with
  | some fault => exact ⟨rfl, same⟩
  | none => exact same.makeFrom down (place ▸ List.prefix_refl _)

/-- And the parent of a file in it. -/
theorem makeParent (same : SameBesides directory fs gs) (n : Path.IsName name)
    (down : ".." ∉ Path.named directory.toList) :
    Alongside directory (DurableCheckpoint.makeParent fs (Path.join directory name))
      (DurableCheckpoint.makeParent gs (Path.join directory name)) := by
  obtain ⟨parent, found, place, down', -⟩ := Path.down_parent n down
  unfold DurableCheckpoint.makeParent
  rw [found]
  by_cases empty : parent = ""
  · rw [empty]
    exact ⟨rfl, same⟩
  simp only [if_neg empty]
  obtain ⟨fs', gs', left, ⟨fault, ours, theirs⟩ | ⟨ours, theirs⟩⟩ :=
    (same.makeDirectories down' place).cases
  · rw [ours, theirs]
    exact ⟨rfl, left⟩
  · rw [ours, theirs]
    exact ⟨rfl, left⟩

/-- A sibling is written alike, over what is left there or in a free place. -/
theorem writeSibling (same : SameBesides directory fs gs) (sound : fs.Sound) (sound' : gs.Sound)
    (located : gs.locate path = fs.locate path) (sibling : Path.place path ∈ siblings directory)
    (down : ".." ∉ Path.steps path) (content : Bytes) :
    Alongside directory (fs.write path content) (gs.write path content) := by
  cases found : fs.locate path with
  | error fault =>
    rw [found] at located
    unfold FileSystem.write
    rw [found, located]
    exact ⟨rfl, same⟩
  | ok l =>
    rw [found] at located
    obtain rfl := FileSystem.locate_place down found
    rw [FileSystem.write_located sound found (same.unblocked _ sibling),
      FileSystem.write_located sound' located (same.unblocked' _ sibling)]
    exact ⟨rfl, same.put (same.unblocked.ne_nil sibling) (.inr nofun)⟩

/-- A sibling in which the same was written is moved alike. -/
theorem renameSibling {source : String} (same : SameBesides directory fs gs)
    (located : gs.locate source = fs.locate source) (located' : gs.locate path = fs.locate path)
    (written : gs.node? (Path.place source) = fs.node? (Path.place source))
    (sibling : Path.place source ∈ siblings directory) (past : Path.place path ∉ siblings directory)
    (down : ".." ∉ Path.steps source) (down' : ".." ∉ Path.steps path) :
    Alongside directory (fs.rename source path) (gs.rename source path) := by
  unfold FileSystem.rename
  rw [located, located']
  cases found : fs.locate source with
  | error fault => exact ⟨rfl, same⟩
  | ok a =>
    obtain rfl := FileSystem.locate_place down found
    cases found' : fs.locate path with
    | error fault => exact ⟨rfl, same⟩
    | ok b =>
      obtain rfl := FileSystem.locate_place down' found'
      simp only [written, same.same _ past]
      rcases fs.node? (Path.place source) with _ | _ | moving
      · exact ⟨rfl, same⟩
      · exact ⟨rfl, same⟩
      have moved (free : fs.node? (Path.place path) ≠ some .directory) :
          SameBesides directory ((fs.erase (Path.place source)).put (Path.place path) (.file moving))
            ((gs.erase (Path.place source)).put (Path.place path) (.file moving)) :=
        (same.erase sibling).put (FileSystem.ne_nil_of_not_directory free) (.inr nofun)
      rcases target : fs.node? (Path.place path) with _ | _ | held
      · exact ⟨rfl, moved (by rw [target]; nofun)⟩
      · exact ⟨rfl, same⟩
      · exact ⟨rfl, moved (by rw [target]; nofun)⟩

/-- A `replace` of a file in the directory has the same outcome in both. -/
theorem replace (same : SameBesides directory fs gs) (sound : fs.Sound) (sound' : gs.Sound)
    (n : Path.IsName name) (down : ".." ∉ Path.named directory.toList)
    (sibling : Path.place directory ++ [name ++ ".tmp"] ∈ siblings directory)
    (past : Path.place directory ++ [name] ∉ siblings directory) (content : Bytes) :
    Alongside directory (DurableCheckpoint.replace fs (Path.join directory name) content)
      (DurableCheckpoint.replace gs (Path.join directory name) content) := by
  rw [← Path.place_sibling_join directory n] at sibling
  rw [← Path.place_join n] at past
  have onward := Path.down_sibling_join n down
  have still := (interrupted_makeParent fs (Path.join directory name)).sound sound
  have still' := (interrupted_makeParent gs (Path.join directory name)).sound sound'
  unfold DurableCheckpoint.replace
  obtain ⟨fs₁, gs₁, made, ⟨failure, ours, theirs⟩ | ⟨ours, theirs⟩⟩ := (same.makeParent n down).cases
  · rw [ours, theirs]
    exact ⟨rfl, made⟩
  rw [ours] at still ⊢
  rw [theirs] at still' ⊢
  -- what is written next is what differed before
  obtain ⟨fs₂, gs₂, wrote, ⟨fault, ours, theirs⟩ | ⟨ours, theirs⟩⟩ :=
    (made.writeSibling still still' (made.locate_sibling n down) sibling onward content).cases
  · simp only [ours, theirs]
    exact ⟨rfl, wrote⟩
  have written : gs₂.node? _ = fs₂.node? _ :=
    (FileSystem.node?_written onward theirs).trans (FileSystem.node?_written onward ours).symm
  simp only [ours, theirs]
  obtain ⟨fs₃, gs₃, moved, ⟨fault, ours, theirs⟩ | ⟨ours, theirs⟩⟩ :=
    (wrote.renameSibling (wrote.locate_sibling n down) (wrote.locate n down rfl) written sibling
      past onward (Path.down_join n down)).cases
  · simp only [ours, theirs]
    exact ⟨rfl, moved⟩
  · simp only [ours, theirs]
    exact ⟨rfl, moved⟩

/-- `readCursor` cannot tell them apart. -/
theorem readCursor (same : SameBesides directory fs gs) (down : ".." ∉ Path.named directory.toList) :
    (inDirectory directory).readCursor gs = (inDirectory directory).readCursor fs := by
  unfold DurableCheckpoint.readCursor
  exact congrArg _ (same.read isName_cursorName down (not_mem_siblings (by decide) (by decide)))

/-- Neither can `readSnapshot`. -/
theorem readSnapshot (same : SameBesides directory fs gs)
    (down : ".." ∉ Path.named directory.toList) :
    (inDirectory directory).readSnapshot gs = (inDirectory directory).readSnapshot fs := by
  unfold DurableCheckpoint.readSnapshot
  exact congrArg _ (same.read isName_snapshotName down (not_mem_siblings (by decide) (by decide)))

/-- One question `q` is answered alike, and behind it they are still the same besides the
    siblings. -/
theorem answer (same : SameBesides directory fs gs) (sound : fs.Sound) (sound' : gs.Sound)
    (down : ".." ∉ Path.named directory.toList) (q : CheckpointQuery) :
    ((inDirectory directory).answer q gs).1 = ((inDirectory directory).answer q fs).1 ∧
      SameBesides directory ((inDirectory directory).answer q fs).2
        ((inDirectory directory).answer q gs).2 := by
  have cursor : Path.place directory ++ [cursorName] ∉ siblings directory :=
    not_mem_siblings (by decide) (by decide)
  have snapshot : Path.place directory ++ [snapshotName] ∉ siblings directory :=
    not_mem_siblings (by decide) (by decide)
  cases q with
  | readCursor => exact ⟨same.readCursor down, same⟩
  | readSnapshot => exact ⟨same.readSnapshot down, same⟩
  | writeCursor height =>
    have replaced := same.replace sound sound' isName_cursorName down List.mem_cons_self cursor
      (contentOfCursor height)
    exact replaced
  | writeSnapshot records =>
    have replaced := same.replace sound sound' isName_snapshotName down
      (List.mem_cons_of_mem _ List.mem_cons_self) snapshot (SnapshotForm.encode records)
    exact replaced

/-- An answer leaves a sound tree. -/
theorem sound_answer (sound : fs.Sound) (q : CheckpointQuery) :
    ((inDirectory directory).answer q fs).2.Sound :=
  (mayAnswer_answer _ fs q).sound sound

/-- Any questions `qs` get the same replies. -/
theorem replies_eq (same : SameBesides directory fs gs) (sound : fs.Sound) (sound' : gs.Sound)
    (down : ".." ∉ Path.named directory.toList) (qs : List CheckpointQuery) :
    CheckpointQuery.replies (inDirectory directory).answer qs gs =
      CheckpointQuery.replies (inDirectory directory).answer qs fs := by
  induction qs generalizing fs gs with
  | nil => rfl
  | cons q qs ih =>
    obtain ⟨first, left⟩ := same.answer sound sound' down q
    rw [CheckpointQuery.replies, CheckpointQuery.replies, first]
    exact congrArg _ (ih left (sound_answer sound q) (sound_answer sound' q))

end SameBesides

end DurableCheckpoint

open DurableCheckpoint (inDirectory LeavesUndone SameBesides isName_cursorName isName_snapshotName)

/-! ## §3. Both together -/

/-- A write to a checkpoint in a directory that is refused, at whatever step, fails by a fault
    of the storage and leaves both reads as they were; only where a name of the directory is too
    long may a read of a missing file become a fault (`LeavesUndone`). What stands in the
    siblings, left there by a refused write or not, makes no difference to the answers to any
    questions (`SameBesides`). -/
theorem refused_writes_are_unseen {directory : String} {fs gs : FileSystem}
    (down : ".." ∉ Path.named directory.toList) (sound : fs.Sound) (sound' : gs.Sound) :
    (∀ height failure fs', (inDirectory directory).answer (.writeCursor height) fs =
        (.error failure, fs') → LeavesUndone directory fs failure fs') ∧
      (∀ records failure fs', (inDirectory directory).answer (.writeSnapshot records) fs =
        (.error failure, fs') → LeavesUndone directory fs failure fs') ∧
      (SameBesides directory fs gs → ∀ qs,
        CheckpointQuery.replies (inDirectory directory).answer qs gs =
          CheckpointQuery.replies (inDirectory directory).answer qs fs) := by
  refine ⟨fun height failure fs' refused => ?_, fun records failure fs' refused => ?_,
    fun same qs => same.replies_eq sound sound' down qs⟩
  · rw [DurableCheckpoint.answer_writeCursor_eq] at refused
    exact DurableCheckpoint.leavesUndone_of_replace isName_cursorName down sound (by decide)
      (by decide) refused
  · have replaced : DurableCheckpoint.replace fs (Path.join directory DurableCheckpoint.snapshotName)
        (SnapshotForm.encode records) = (.error failure, fs') := refused
    exact DurableCheckpoint.leavesUndone_of_replace isName_snapshotName down sound (by decide)
      (by decide) replaced

/-- A directory with a cursor file, in which a directory stands where the snapshot file
    belongs. -/
def FileSystem.blocked : FileSystem :=
  ((FileSystem.empty.put ["a"] .directory).put ["a", "latest_block"] (.file [55])).put
    ["a", "stake_info.rlp"] .directory

theorem FileSystem.Sound.blocked : FileSystem.blocked.Sound :=
  ((FileSystem.Sound.empty.put rfl (.inl rfl)).put rfl (.inr (by decide))).put rfl (.inl rfl)

/-- What a refused snapshot leaves there. -/
def FileSystem.leftOver : FileSystem :=
  ((inDirectory "a").answer (.writeSnapshot SnapshotForm.single) .blocked).2

/-- It is written to the sibling and not moved. -/
theorem answer_blocked :
    (((inDirectory "a").answer (.writeSnapshot SnapshotForm.single) .blocked).1.isOk = false ∧
      FileSystem.leftOver = FileSystem.blocked.put ["a", "stake_info.rlp.tmp"]
        (.file (SnapshotForm.encode SnapshotForm.single))) ∧
      Path.named "a".toList = ["a"] ∧ DurableCheckpoint.siblings "a" =
        [["a", "latest_block.tmp"], ["a", "stake_info.rlp.tmp"]] := by
  decide +kernel

/-- The refused snapshot leaves a file in a sibling and nothing else. -/
theorem sameBesides_leftOver : SameBesides "a" .blocked .leftOver := by
  obtain ⟨⟨-, left⟩, -, siblings⟩ := answer_blocked
  rw [left]
  refine SameBesides.left ?_ ?_
  · unfold DurableCheckpoint.Unblocked
    rw [siblings]
    decide
  · rw [siblings]
    decide

/-- A snapshot that is refused at the last step leaves its sibling behind, and nothing that
    any question could tell. -/
theorem left_sibling_is_unseen :
    (∃ failure, LeavesUndone "a" .blocked failure .leftOver) ∧
      ∀ qs, CheckpointQuery.replies (inDirectory "a").answer qs .leftOver =
        CheckpointQuery.replies (inDirectory "a").answer qs .blocked := by
  have down : ".." ∉ Path.named "a".toList := by
    rw [answer_blocked.2.1]
    decide
  have sound : FileSystem.leftOver.Sound := SameBesides.sound_answer .blocked _
  obtain ⟨-, refused, unseen⟩ := refused_writes_are_unseen down .blocked sound
  refine ⟨?_, unseen sameBesides_leftOver⟩
  cases outcome : ((inDirectory "a").answer (.writeSnapshot SnapshotForm.single) .blocked).1 with
  | ok _ =>
    have failed := answer_blocked.1.1
    rw [outcome] at failed
    cases failed
  | error failure => exact ⟨failure, refused _ failure _ (Prod.ext outcome rfl)⟩

section LongName

open DurableCheckpoint (cursorName cursorPath_inDirectory answer_writeCursor_eq replace_unmade)

/-- A name of 256 bytes. -/
def longName : List Char := List.replicate 256 (Char.ofNat 120)

/-- A directory of this name in another one. -/
def longDirectory : String := String.ofList ('a' :: '/' :: longName)

/-- The cursor file there. -/
def longCursor : String := String.ofList ('a' :: '/' :: longName ++ '/' :: cursorName.toList)

/-- The names in `longDirectory` and `longCursor`, and the sizes of the names. -/
theorem evaluated_long :
    (longDirectory.toList.getLast?.all (· = '/') = false ∧
      Path.steps longDirectory = ["a", String.ofList longName] ∧
      Path.steps longCursor = ["a", String.ofList longName, cursorName] ∧
      Path.components longCursor =
        [⟨['a'], 1⟩, ⟨longName, 258⟩, ⟨cursorName.toList, 271⟩]) ∧
      FileSystem.pathFault? longDirectory = none ∧ FileSystem.pathFault? longCursor = none ∧
      FileSystem.nameLimit < (String.ofList longName).utf8ByteSize := by
  unfold Path.steps Path.components Path.isAbsolute FileSystem.pathFault? longDirectory longCursor
  -- the characters are known, so they need not be found from the bytes
  simp only [String.toList_ofList]
  decide +kernel

theorem steps_longDirectory : Path.steps longDirectory = ["a", String.ofList longName] :=
  evaluated_long.1.2.1

theorem longName_tooLong : FileSystem.nameLimit < (String.ofList longName).utf8ByteSize :=
  evaluated_long.2.2.2

/-- A name within `nameLimit` is not the long one. -/
theorem longName_ne {name : String} (short : name.utf8ByteSize ≤ FileSystem.nameLimit) :
    String.ofList longName ≠ name := by
  intro same
  have long := longName_tooLong
  rw [same] at long
  omega

theorem down_longDirectory : ".." ∉ Path.steps longDirectory := by
  rw [steps_longDirectory, List.mem_cons, List.mem_singleton]
  rintro (same | same)
  · exact absurd same (by decide)
  · exact longName_ne (by decide) same.symm

theorem join_longDirectory : Path.join longDirectory cursorName = longCursor := by
  unfold Path.join
  rw [isName_cursorName.relative, if_neg Bool.false_ne_true, evaluated_long.1.1,
    if_neg Bool.false_ne_true]
  refine String.toList_inj.mp ?_
  rw [longCursor, longDirectory, String.toList_append, String.toList_append,
    String.toList_ofList, String.toList_ofList]
  simp

theorem parent_longCursor : Path.parent? longCursor = some longDirectory := by
  have taken : longCursor.toList.take 258 = 'a' :: '/' :: longName := by
    rw [longCursor, String.toList_ofList]
    refine List.take_left' ?_
    rw [List.length_cons, List.length_cons, longName, List.length_replicate]
  rw [Path.parent_of_components evaluated_long.1.2.2.2]
  exact congrArg (fun cs => some (String.ofList cs)) taken

theorem ofList_cons_ne_nil (c : Char) (cs : List Char) : String.ofList (c :: cs) ≠ "" := by
  intro same
  have chars := congrArg String.toList same
  rw [String.toList_ofList] at chars
  cases chars

/-- A cursor is refused there, behind the first directory `a`, which is made. -/
theorem answer_longDirectory : (inDirectory longDirectory).answer (.writeCursor 7) .empty =
    (.error (.storage (.makeDirectory longDirectory .nameTooLong)),
      FileSystem.empty.put ["a"] .directory) := by
  have unmade : FileSystem.empty.makeDirectories longDirectory =
      (.error .nameTooLong, FileSystem.empty.put ["a"] .directory) := by
    rw [FileSystem.makeDirectories_eq evaluated_long.2.1, steps_longDirectory,
      FileSystem.makeFrom_free (by decide) (by decide) (by decide) rfl]
    exact FileSystem.makeFrom_long longName_tooLong
  rw [answer_writeCursor_eq, cursorPath_inDirectory, join_longDirectory]
  exact replace_unmade parent_longCursor (ofList_cons_ne_nil _ _) unmade

/-- The two paths are read below `a`, their first directory. -/
theorem read_below {path : String} {rest : List String} (whole : FileSystem.pathFault? path = none)
    (steps : Path.steps path = "a" :: rest) (fs : FileSystem) :
    fs.read path = fs.readFrom ["a"] rest := by
  have some : path ≠ "" := by
    rintro rfl
    cases steps
  rw [FileSystem.read_eq_readFrom whole some, steps,
    FileSystem.readFrom_directory rfl (by decide) (by decide)]
  rfl

/-- Before that, a read of `longCursor` finds no file, and afterwards that a name is too long. -/
theorem read_longCursor : FileSystem.empty.read longCursor = .error .missing ∧
    (FileSystem.empty.put ["a"] .directory).read longCursor = .error .nameTooLong := by
  have read := read_below evaluated_long.2.2.1 evaluated_long.1.2.2.1
  constructor
  · rw [read]
    exact FileSystem.readFrom_free rfl _
  · rw [read]
    exact FileSystem.readFrom_long rfl longName_tooLong

end LongName

/-- A refused write does not leave every read as it was: behind a name of more than `255` bytes
    it shows. -/
theorem long_name_shows_a_refused_write :
    ¬ ∀ (directory : String) (fs fs' : FileSystem) (height : UInt64) (failure : Failure),
      ".." ∉ Path.named directory.toList → fs.Sound →
      (inDirectory directory).answer (.writeCursor height) fs = (.error failure, fs') →
      (inDirectory directory).readCursor fs' = (inDirectory directory).readCursor fs ∧
        (inDirectory directory).readSnapshot fs' = (inDirectory directory).readSnapshot fs := by
  intro unseen
  have same :=
    (unseen longDirectory .empty _ 7 _ (Path.down_named down_longDirectory) .empty
      answer_longDirectory).1
  unfold DurableCheckpoint.readCursor at same
  rw [DurableCheckpoint.cursorPath_inDirectory, join_longDirectory, read_longCursor.1,
    read_longCursor.2] at same
  cases same

end StakeRelay
