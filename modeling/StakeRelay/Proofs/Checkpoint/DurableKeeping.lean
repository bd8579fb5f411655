/-
  StakeRelay.Proofs.Checkpoint.DurableKeeping — the checkpoint in two files keeps its laws.

  A file is replaced in three steps: its directory is made, the new content is written to
  its sibling, the sibling is moved into place. Any step may fail, and a failure may leave
  behind what the first two steps did, or a part of it. So a replacement changes no other
  target than those of the file and of its sibling (`MayReplace.leaves`), and one that is
  refused changes no file but the sibling (`MayReplace.leaves_refused`).

  What a checkpoint in two files promises depends on where the paths lead. For any two paths
  the snapshot is read again behind its own commit, or it was lost to the cursor. It is lost
  only if the snapshot's path leads to the cursor's file or to the sibling of that file; if it
  does not, the snapshot that is held is the file at its target, which the path reaches.

  Main statements:
    * `DurableCheckpoint.read_moved` — a replaced file has the new content;
    * `DurableCheckpoint.MayReplace.read_past` — what becomes of another file;
    * `Storing.durable` — the checkpoint in any two files;
    * `Holding.durable` — the snapshot's path is clear of the cursor's (`ClearOf`);
    * `Keeping.durable` — each path is clear of the other one.
-/

import StakeRelay.Proofs.Checkpoint.CursorFile
import StakeRelay.Proofs.Checkpoint.Keeping
import StakeRelay.Proofs.Checkpoint.Targets

namespace StakeRelay

/-! ## §1. Replacing a file -/

namespace DurableCheckpoint

open FileSystem (Leaves)

variable {fs fs' : FileSystem} {path : String} {content : Bytes}

/-- What a replacement that was refused may have done so far. -/
inductive Interrupted (fs : FileSystem) (path : String) : FileSystem → Prop
  /-- Nothing at all. -/
  | nothing : Interrupted fs path fs
  /-- It made directories on the way to the file. -/
  | making {parent : String} {names : List String} (found : Path.parent? path = some parent)
      (part : names <+: Path.steps parent) : Interrupted fs path (fs.makeFrom [] names).2
  /-- It wrote something to the sibling. -/
  | writing {fs' : FileSystem} (before : Interrupted fs path fs') (content : Bytes) :
      Interrupted fs path (fs'.write (siblingOf path) content).2

/-- An interrupted replacement leaves a tree that is `Sound`. -/
theorem Interrupted.sound (sound : fs.Sound) (left : Interrupted fs path fs') : fs'.Sound := by
  induction left with
  | nothing => exact sound
  | making found part => exact sound.makeFrom rfl _
  | writing before content ih => exact ih.write _ _

/-- It spares every location but its sibling's and those on the way to the file (`Spares`). -/
theorem Interrupted.spares_join {directory name : String} {w : Location} (n : Path.IsName name)
    (down : ".." ∉ Path.named directory.toList)
    (left : Interrupted fs (Path.join directory name) fs') (above : ¬ w <+: Path.place directory)
    (sibling : ¬ Path.place directory ++ [name ++ ".tmp"] <+: w) :
    FileSystem.Spares w fs fs' := by
  induction left with
  | nothing => exact .refl w fs
  | @making parent names found part =>
    obtain ⟨parent', found', place, down, -⟩ := Path.down_parent n down
    obtain rfl : parent = parent' := Option.some.inj (found.symm.trans found')
    -- directories are made on the way to the file, and the location is not on it
    refine .makeFrom (fun dots => down (part.subset dots)) fun below => above ?_
    rw [← place]
    exact below.trans (part.filter _)
  | writing before content ih =>
    refine ih.trans (.write (Path.down_sibling_join n down) ?_ content)
    rwa [Path.place_sibling_join directory n]

/-- It leaves every target alone but that of `siblingOf path`. -/
theorem Interrupted.leaves {l : Location} (left : Interrupted fs path fs')
    (other : l ≠ Path.target (siblingOf path)) : Leaves l fs fs' := by
  induction left with
  | nothing => exact .refl l fs
  | making => exact .makeFrom l fs [] _
  | writing before content ih => exact ih.trans (.write other content)

/-- A parent that cannot be made is a fault of the storage, `.storage fault`. -/
theorem storage_of_makeParent {failure : Failure}
    (done : makeParent fs path = (.error failure, fs')) : ∃ fault, failure = .storage fault := by
  unfold makeParent at done
  split at done
  · cases done
  split at done
  · cases done
  split at done
  · cases done
  · cases done
    exact ⟨_, rfl⟩

/-- Making the parent is a replacement that was `Interrupted` there. -/
theorem interrupted_makeParent (fs : FileSystem) (path : String) :
    Interrupted fs path (makeParent fs path).2 := by
  unfold makeParent
  split
  · exact .nothing
  rename_i parent found
  split
  · exact .nothing
  have made : Interrupted fs path (fs.makeDirectories parent).2 := by
    unfold FileSystem.makeDirectories
    split
    · exact .nothing
    · exact .making found (List.prefix_refl _)
  split
  · rename_i fs' done
    rwa [done] at made
  · rename_i fault fs' done
    rwa [done] at made

/-- The new content was written to the sibling and moved into place. -/
def Moved (fs : FileSystem) (path : String) (content : Bytes) (fs' : FileSystem) : Prop :=
  ∃ written, fs.write (siblingOf path) content = (.ok (), written) ∧
    written.rename (siblingOf path) path = (.ok (), fs')

/-- A `replace` comes to its move into place, or fails by a fault of the storage and was
    `Interrupted`. -/
theorem replace_cases (fs : FileSystem) (path : String) (content : Bytes) :
    (∃ made fs', Interrupted fs path made ∧ Moved made path content fs' ∧
      replace fs path content = (.ok (), fs')) ∨
    ∃ fault fs', Interrupted fs path fs' ∧
      replace fs path content = (.error (.storage fault), fs') := by
  have made := interrupted_makeParent fs path
  unfold replace
  split
  · rename_i failure fs' done
    rw [done] at made
    obtain ⟨fault, rfl⟩ : ∃ fault, failure = .storage fault := storage_of_makeParent done
    exact .inr ⟨fault, fs', made, rfl⟩
  rename_i before done
  rw [done] at made
  -- a failed write and a failed move leave the files as they found them
  rcases FileSystem.write_cases before (siblingOf path) content with
    ⟨l, -, -, wrote⟩ | ⟨fault, wrote⟩
  · have written := made.writing content
    rw [wrote] at written
    simp only [wrote]
    rcases FileSystem.rename_cases (before.put l (.file content)) (siblingOf path) path with
      ⟨a, b, moving, -, -, -, -, moved⟩ | ⟨fault, moved⟩
    · exact .inl ⟨before, _, made, ⟨_, wrote, moved⟩, by rw [moved]⟩
    · exact .inr ⟨.move (siblingOf path) path fault, _, written, by rw [moved]⟩
  · exact .inr ⟨.write (siblingOf path) fault, _, made, by simp only [wrote]⟩

/-- A move into place leaves a tree that is `Sound`. -/
theorem Moved.sound (sound : fs.Sound) (moved : Moved fs path content fs') : fs'.Sound := by
  obtain ⟨written, wrote, renamed⟩ := moved
  have first := sound.write (siblingOf path) content
  rw [wrote] at first
  have second := first.rename (siblingOf path) path
  rwa [renamed] at second

/-- It spares every location but its two ends, where neither path has `..`. -/
theorem Moved.spares_down {w : Location} (moved : Moved fs path content fs')
    (down : ".." ∉ Path.steps path) (down' : ".." ∉ Path.steps (siblingOf path))
    (past : ¬ Path.place (siblingOf path) <+: w) (other : ¬ Path.place path <+: w) :
    FileSystem.Spares w fs fs' := by
  obtain ⟨written, wrote, renamed⟩ := moved
  have first : FileSystem.Spares w fs (fs.write (siblingOf path) content).2 :=
    .write down' past content
  rw [wrote] at first
  have second : FileSystem.Spares w written (written.rename (siblingOf path) path).2 :=
    .rename down' down past other
  rw [renamed] at second
  exact first.trans second

/-- What the files are behind a move into place. -/
structure Placed (fs : FileSystem) (path : String) (content : Bytes) (fs' : FileSystem) : Prop where
  directories : ∀ l, fs.node? l = some .directory → fs'.node? l = some .directory
  located : fs'.locate path = .ok (Path.target path)
  siblingLocated : fs'.locate (siblingOf path) = .ok (Path.target (siblingOf path))
  file : fs'.node? (Path.target path) = some (.file content)
  sibling : fs'.node? (Path.target (siblingOf path)) = none
  others : ∀ l, l ≠ Path.target path → l ≠ Path.target (siblingOf path) → fs'.node? l = fs.node? l

/-- It puts the content at the path's target and takes it from the sibling's (`Placed`). -/
theorem Moved.placed (moved : Moved fs path content fs') : Placed fs path content fs' := by
  obtain ⟨written, wrote, renamed⟩ := moved
  rcases FileSystem.write_cases fs (siblingOf path) content with
    ⟨l, found, free, done⟩ | ⟨fault, done⟩
  case inr => cases done.symm.trans wrote
  obtain ⟨-, rfl⟩ := Prod.mk.inj (done.symm.trans wrote)
  rcases FileSystem.rename_cases (fs.put l (.file content)) (siblingOf path) path with
    ⟨a, b, moving, from', place, file, free', done'⟩ | ⟨fault, done'⟩
  case inr => cases done'.symm.trans renamed
  obtain ⟨-, rfl⟩ := Prod.mk.inj (done'.symm.trans renamed)
  obtain rfl := FileSystem.locate_target found
  obtain rfl := FileSystem.locate_target from'
  obtain rfl := FileSystem.locate_target place
  have apart := Path.target_sibling_ne path
  obtain rfl : content = moving := by
    rw [FileSystem.node?_put_self (FileSystem.ne_nil_of_not_directory free)] at file
    injection file with file
    injection file
  -- the sibling is a file, so no directory goes with it
  have kept := FileSystem.directory_move (by rw [file]; nofun) free' (.file content)
  have keeps := fun l here => kept l (FileSystem.directory_put free (.file content) l here)
  refine ⟨keeps, FileSystem.locate_of_directories kept place,
    FileSystem.locate_of_directories keeps found,
    FileSystem.node?_put_self (FileSystem.ne_nil_of_not_directory free'), ?_, fun l other other' => ?_⟩
  · rw [FileSystem.node?_put_of_ne apart]
    exact FileSystem.node?_erase_self (FileSystem.ne_nil_of_not_directory free)
  · rw [FileSystem.node?_put_of_ne other, FileSystem.node?_erase_of_ne other',
      FileSystem.node?_put_of_ne other']

/-- It leaves every target alone but the path's own and its sibling's (`siblingOf`). -/
theorem Placed.leaves {l : Location} (placed : Placed fs path content fs')
    (other : l ≠ Path.target path) (other' : l ≠ Path.target (siblingOf path)) :
    Leaves l fs fs' := ⟨placed.directories, .inl (placed.others l other other')⟩

/-- A replaced file has the new content: `fs'.read path = .ok content`. -/
theorem read_moved (moved : Moved fs path content fs') : fs'.read path = .ok content := by
  have placed := moved.placed
  unfold FileSystem.read
  rw [placed.located]
  simp only [placed.file]

/-- What could be read is read as before behind a move into place, unless it is what the move
    replaced (`content` is read) or took away (`.missing`). -/
theorem Placed.read_past {other : String} {was : Bytes} (placed : Placed fs path content fs')
    (whole : fs.read other = .ok was) :
    fs'.read other = .ok was ∨ fs'.read other = .ok content ∨ fs'.read other = .error .missing := by
  have still := FileSystem.locate_of_directories placed.directories (FileSystem.read_eq_ok whole).1
  unfold FileSystem.read
  rw [still]
  by_cases file : Path.target other = Path.target path
  · exact .inr (.inl (by simp only [file, placed.file]))
  by_cases sibling : Path.target other = Path.target (siblingOf path)
  · exact .inr (.inr (by simp only [sibling, placed.sibling]))
  · exact .inl (by simp only [placed.others _ file sibling, (FileSystem.read_eq_ok whole).2])

/-! ## §2. Answers -/

/-- What a replacement may answer and leave behind: what it does by itself, or what it has
    done so far when a fault ended it. -/
def MayReplace (fs : FileSystem) (path : String) (content : Bytes) (reply : Except Failure Unit)
    (fs' : FileSystem) : Prop :=
  (reply, fs') = replace fs path content ∨
    (∃ fault, reply = .error (.storage fault)) ∧ Interrupted fs path fs'

/-- What the checkpoint may answer and leave behind. -/
def MayAnswer (c : DurableCheckpoint) (fs : FileSystem) :
    (q : CheckpointQuery) → Except Failure q.Reply → FileSystem → Prop
  | .readCursor, reply, fs' =>
    (reply = c.readCursor fs ∨ ∃ fault, reply = .error (.storage fault)) ∧ fs' = fs
  | .writeCursor height, reply, fs' =>
    MayReplace fs c.cursorPath (contentOfCursor height) reply fs'
  | .readSnapshot, reply, fs' =>
    (reply = c.readSnapshot fs ∨ ∃ fault, reply = .error (.storage fault)) ∧ fs' = fs
  | .writeSnapshot snapshot, reply, fs' =>
    MayReplace fs c.snapshotPath (SnapshotForm.encode snapshot) reply fs'

/-- `c.answer q fs`, the answer without a fault, is one that `MayAnswer` allows. -/
theorem mayAnswer_answer (c : DurableCheckpoint) (fs : FileSystem) (q : CheckpointQuery) :
    c.MayAnswer fs q (c.answer q fs).1 (c.answer q fs).2 := by
  cases q with
  | readCursor => exact ⟨.inl rfl, rfl⟩
  | readSnapshot => exact ⟨.inl rfl, rfl⟩
  | writeCursor height => exact .inl rfl
  | writeSnapshot snapshot => exact .inl rfl

/-- A replacement is accepted and moved into place, or refused by the storage and `Interrupted`. -/
theorem MayReplace.cases {reply : Except Failure Unit} (may : MayReplace fs path content reply fs') :
    (reply = .ok () ∧ ∃ made, Interrupted fs path made ∧ Moved made path content fs') ∨
      (∃ fault, reply = .error (.storage fault)) ∧ Interrupted fs path fs' := by
  rcases may with done | refused
  · rcases replace_cases fs path content with
      ⟨made, fs'', before, moved, whole⟩ | ⟨fault, fs'', left, whole⟩
    · obtain ⟨rfl, rfl⟩ := Prod.mk.inj (done.trans whole)
      exact .inl ⟨rfl, made, before, moved⟩
    · obtain ⟨rfl, rfl⟩ := Prod.mk.inj (done.trans whole)
      exact .inr ⟨⟨fault, rfl⟩, left⟩
  · exact .inr refused

/-- Either way the tree stays sound. -/
theorem MayReplace.sound {reply : Except Failure Unit} (sound : fs.Sound)
    (may : MayReplace fs path content reply fs') : fs'.Sound := by
  rcases may.cases with ⟨-, made, before, moved⟩ | ⟨-, left⟩
  · exact moved.sound (before.sound sound)
  · exact left.sound sound

/-- No answer unsettles the tree. -/
theorem MayAnswer.sound {c : DurableCheckpoint} {q : CheckpointQuery} {reply : Except Failure q.Reply}
    (sound : fs.Sound) (may : c.MayAnswer fs q reply fs') : fs'.Sound := by
  cases q with
  | readCursor => exact may.2 ▸ sound
  | readSnapshot => exact may.2 ▸ sound
  | writeCursor height => exact MayReplace.sound sound may
  | writeSnapshot snapshot => exact MayReplace.sound sound may

/-- An accepted replacement is read: `fs'.read path = .ok content`. -/
theorem MayReplace.read (may : MayReplace fs path content (.ok ()) fs') :
    fs'.read path = .ok content := by
  rcases may.cases with ⟨-, made, -, moved⟩ | ⟨⟨fault, refused⟩, -⟩
  · exact read_moved moved
  · cases refused

/-- A path leads neither to a file nor to the sibling in which that file is written first. -/
structure ClearOf (path other : String) : Prop where
  file : Path.target path ≠ Path.target other
  sibling : Path.target path ≠ Path.target (siblingOf other)

/-- A file is `ClearOf` another one in the same directory if it has neither its name nor that of
    its sibling. -/
theorem ClearOf.join (directory : String) {name other : String} (n : Path.IsName name)
    (n' : Path.IsName other) (apart : name ≠ other) (apart' : name ≠ other ++ ".tmp") :
    ClearOf (Path.join directory name) (Path.join directory other) where
  file := by
    rw [Path.target_join _ n, Path.target_join _ n']
    simpa using apart
  sibling := by
    rw [Path.target_join _ n, Path.target_sibling _ n']
    simpa using apart'

theorem isName_cursorName : Path.IsName cursorName :=
  ⟨by decide, by decide, by decide, by decide⟩

theorem isName_snapshotName : Path.IsName snapshotName :=
  ⟨by decide, by decide, by decide, by decide⟩

/-- In a directory the snapshot's path is `ClearOf` the cursor's. -/
theorem clearOf_cursorPath (directory : String) :
    ClearOf (inDirectory directory).snapshotPath (inDirectory directory).cursorPath :=
  .join directory isName_snapshotName isName_cursorName (by decide) (by decide)

/-- And the cursor's path of the snapshot's. -/
theorem clearOf_snapshotPath (directory : String) :
    ClearOf (inDirectory directory).cursorPath (inDirectory directory).snapshotPath :=
  .join directory isName_cursorName isName_snapshotName (by decide) (by decide)

/-- A replacement that is refused leaves `Path.target path` alone. -/
theorem MayReplace.leaves_refused {failure : Failure}
    (may : MayReplace fs path content (.error failure) fs') : Leaves (Path.target path) fs fs' := by
  rcases may.cases with ⟨done, -⟩ | ⟨-, left⟩
  · cases done
  · exact left.leaves (Path.target_sibling_ne path).symm

/-- A replacement leaves alone what a path leads to that is `ClearOf` it. -/
theorem MayReplace.leaves {other : String} {reply : Except Failure Unit} (clear : ClearOf other path)
    (may : MayReplace fs path content reply fs') : Leaves (Path.target other) fs fs' := by
  rcases may.cases with ⟨-, made, before, moved⟩ | ⟨-, left⟩
  · exact (before.leaves clear.sibling).trans (moved.placed.leaves clear.file clear.sibling)
  · exact left.leaves clear.sibling

/-- An accepted replacement leaves another file as it was, or gives it the new `content`, or
    takes it away, depending on where its path leads. -/
theorem MayReplace.read_past {other : String} {was : Bytes}
    (may : MayReplace fs path content (.ok ()) fs') (whole : fs.read other = .ok was) :
    fs'.read other = .ok was ∨ fs'.read other = .ok content ∨ fs'.read other = .error .missing := by
  rcases may.cases with ⟨-, made, before, moved⟩ | ⟨⟨fault, refused⟩, -⟩
  case inr => cases refused
  by_cases sibling : Path.target other = Path.target (siblingOf path)
  · -- whatever was written to the sibling is moved away
    have own := before.leaves (Path.target_sibling_ne path).symm
    have found := FileSystem.locate_of_directories own.directories (FileSystem.read_eq_ok whole).1
    refine .inr (.inr ?_)
    unfold FileSystem.read
    rw [FileSystem.locate_of_directories moved.placed.directories found]
    simp only [sibling, moved.placed.sibling]
  · exact moved.placed.read_past ((before.leaves sibling).read whole)

/-! ## §3. Failures -/

open SnapshotForm (Lasting)

/-- A replacement fails by the storage only (`Lasting`). -/
theorem MayReplace.lasting {reply : Except Failure Unit} (may : MayReplace fs path content reply fs') :
    Lasting reply := by
  rcases may.cases with ⟨rfl, -⟩ | ⟨⟨fault, rfl⟩, -⟩
  · nofun
  · intro failure given
    cases given
    exact .storage fault

theorem lasting_ifThere (path : String) (content : Except FileFault Bytes) :
    Lasting (ifThere path content) := by
  unfold ifThere
  intro failure given
  split at given <;> cases given
  exact .storage _

/-- A cursor that cannot be read is a failure of the checkpoint's own, and so is `Lasting`. -/
theorem lasting_readCursor (c : DurableCheckpoint) (fs : FileSystem) : Lasting (c.readCursor fs) := by
  have there := lasting_ifThere c.cursorPath (fs.read c.cursorPath)
  unfold readCursor cursorOfRead
  split
  · rename_i failure missing
    rw [missing] at there
    intro failure' given
    cases given
    exact there failure rfl
  · nofun
  · unfold cursorOfContent
    intro failure
    simp only
    split
    · nofun
    split
    · nofun
    · intro given
      cases given
      exact .decode _

/-- So is a snapshot that `readSnapshot` cannot read. -/
theorem lasting_readSnapshot (c : DurableCheckpoint) (fs : FileSystem) :
    Lasting (c.readSnapshot fs) := by
  have there := lasting_ifThere c.snapshotPath (fs.read c.snapshotPath)
  unfold readSnapshot snapshotOfRead
  split
  · rename_i failure missing
    rw [missing] at there
    intro failure' given
    cases given
    exact there failure rfl
  · nofun
  · unfold snapshotOfContent
    split
    · nofun
    · exact SnapshotForm.lasting_decode_snapshot _

/-- Every failure of the checkpoint is its own (`Lasting`). -/
theorem MayAnswer.lasting {c : DurableCheckpoint} {q : CheckpointQuery}
    {reply : Except Failure q.Reply} (may : c.MayAnswer fs q reply fs') : Lasting reply := by
  have storage : ∀ {α : Type} (fault : StorageFault),
      Lasting (.error (.storage fault) : Except Failure α) := by
    intro α fault failure given
    cases given
    exact .storage fault
  cases q with
  | readCursor =>
    obtain ⟨rfl | ⟨fault, rfl⟩, -⟩ := may
    · exact lasting_readCursor c fs
    · exact storage fault
  | readSnapshot =>
    obtain ⟨rfl | ⟨fault, rfl⟩, -⟩ := may
    · exact lasting_readSnapshot c fs
    · exact storage fault
  | writeCursor height => exact MayReplace.lasting may
  | writeSnapshot snapshot => exact MayReplace.lasting may

end DurableCheckpoint

/-! ## §4. What is held -/

namespace DurableCheckpoint

variable {c : DurableCheckpoint} {fs fs' : FileSystem}

/-- The cursor in the file at the target of its path. -/
def keptCursor (c : DurableCheckpoint) (fs : FileSystem) : Except Failure UInt64 :=
  c.cursorOfRead (fs.fileAt (Path.target c.cursorPath))

/-- The snapshot in the file at the target of its path. -/
def keptSnapshot (c : DurableCheckpoint) (fs : FileSystem) : Except Failure (List StakerRecord) :=
  c.snapshotOfRead (fs.fileAt (Path.target c.snapshotPath))

/-- The path of a file can be relied on: the tree is sound, and the path reaches the file. -/
structure Reaches (path : String) (fs : FileSystem) : Prop where
  sound : fs.Sound
  finds : fs.Finds path

/-- What a path that `Reaches` its file reads, if it reads anything or nothing, is the file at
    its target. -/
theorem Reaches.fileAt {path : String} (reaches : Reaches path fs)
    (there : ∃ content, ifThere path (fs.read path) = .ok content) :
    fs.fileAt (Path.target path) = fs.read path := by
  obtain ⟨content, there⟩ := there
  unfold ifThere at there
  split at there
  · rename_i whole
    rw [whole, FileSystem.fileAt_of_read whole]
  · rename_i missing
    rw [missing, FileSystem.fileAt_of_missing reaches.sound reaches.finds missing]
  · cases there

/-- So what is read of the cursor is what is held: `c.keptCursor fs`. -/
theorem Reaches.keptCursor {height : UInt64} (reaches : Reaches c.cursorPath fs)
    (read : c.readCursor fs = .ok height) : c.keptCursor fs = .ok height := by
  unfold DurableCheckpoint.keptCursor
  rwa [reaches.fileAt]
  unfold readCursor cursorOfRead at read
  split at read
  · cases read
  · exact ⟨_, ‹_›⟩
  · exact ⟨_, ‹_›⟩

/-- And what is read of the snapshot is `c.keptSnapshot fs`. -/
theorem Reaches.keptSnapshot {rs : List StakerRecord} (reaches : Reaches c.snapshotPath fs)
    (read : c.readSnapshot fs = .ok rs) : c.keptSnapshot fs = .ok rs := by
  unfold DurableCheckpoint.keptSnapshot
  rwa [reaches.fileAt]
  unfold readSnapshot snapshotOfRead at read
  split at read
  · cases read
  · exact ⟨_, ‹_›⟩
  · exact ⟨_, ‹_›⟩

/-- A file that is replaced is reached (`Reaches`), and one whose replacement is refused is
    reached as before. -/
theorem MayReplace.reaches {path : String} {content : Bytes} {reply : Except Failure Unit}
    (reaches : Reaches path fs) (may : MayReplace fs path content reply fs') : Reaches path fs' := by
  refine ⟨may.sound reaches.sound, ?_⟩
  cases reply with
  | error failure => exact reaches.finds.left may.leaves_refused
  | ok _ => exact .of_read may.read

/-- Another file that is `ClearOf` it is reached as before. -/
theorem MayReplace.reaches_other {path other : String} {content : Bytes}
    {reply : Except Failure Unit} (clear : ClearOf other path) (reaches : Reaches other fs)
    (may : MayReplace fs path content reply fs') : Reaches other fs' :=
  ⟨may.sound reaches.sound, reaches.finds.left (may.leaves clear)⟩

/-- Whatever the checkpoint answers, the snapshot's path `Reaches` its file behind it. -/
theorem MayAnswer.reaches_snapshot {q : CheckpointQuery} {reply : Except Failure q.Reply}
    (clear : ClearOf c.snapshotPath c.cursorPath) (reaches : Reaches c.snapshotPath fs)
    (may : c.MayAnswer fs q reply fs') : Reaches c.snapshotPath fs' := by
  cases q with
  | readCursor => exact may.2 ▸ reaches
  | readSnapshot => exact may.2 ▸ reaches
  | writeCursor height => exact MayReplace.reaches_other clear reaches may
  | writeSnapshot rs => exact MayReplace.reaches reaches may

/-- So can the cursor's path. -/
theorem MayAnswer.reaches_cursor {q : CheckpointQuery} {reply : Except Failure q.Reply}
    (clear : ClearOf c.cursorPath c.snapshotPath) (reaches : Reaches c.cursorPath fs)
    (may : c.MayAnswer fs q reply fs') : Reaches c.cursorPath fs' := by
  cases q with
  | readCursor => exact may.2 ▸ reaches
  | readSnapshot => exact may.2 ▸ reaches
  | writeCursor height => exact MayReplace.reaches reaches may
  | writeSnapshot rs => exact MayReplace.reaches_other clear reaches may

/-- A snapshot file that holds `SnapshotForm.encode rs` reads as `rs`. -/
theorem snapshotOfRead_written {rs : List StakerRecord} (storable : SnapshotForm.Storable rs) :
    c.snapshotOfRead (.ok (SnapshotForm.encode rs)) = .ok rs := by
  have some : SnapshotForm.encode rs ≠ [] := Rlp.encodeList_ne_nil _
  unfold snapshotOfRead
  simp only [ifThere, snapshotOfContent, if_neg some]
  exact SnapshotForm.decode_written storable

/-- Behind a commit of `rs` the snapshot reads as `rs` or as `[]`, if it can be read. -/
theorem MayAnswer.snapshot_of_commit {fs'' : FileSystem} {rs rs' : List StakerRecord}
    {height : UInt64} (storable : SnapshotForm.Storable rs)
    (saved : c.MayAnswer fs (.writeSnapshot rs) (.ok ()) fs')
    (marked : c.MayAnswer fs' (.writeCursor height) (.ok ()) fs'')
    (read : c.readSnapshot fs'' = .ok rs') : rs' = rs ∨ rs' = [] := by
  have written : fs'.read c.snapshotPath = .ok (SnapshotForm.encode rs) := MayReplace.read saved
  unfold readSnapshot at read
  rcases MayReplace.read_past marked written with same | cursor | gone
  · rw [same, snapshotOfRead_written storable] at read
    exact .inl (Except.ok.inj read).symm
  · -- what is in the cursor's file is no snapshot
    rw [cursor] at read
    have failed := (snapshotOfContent_cursor height).symm.trans read
    cases failed
  · rw [gone] at read
    exact .inr (Except.ok.inj read).symm

end DurableCheckpoint

/-! ## §5. The checkpoint in two files -/

open DurableCheckpoint (ClearOf Reaches MayReplace MayAnswer)

/-- The checkpoint in any two files, any of whose reads and writes may be ended by a fault. -/
def Storing.durable (c : DurableCheckpoint) : Storing FileSystem where
  answers fs q reply fs' := c.MayAnswer fs q reply fs'
  snapshot fs := c.readSnapshot fs
  snapshot_of_read := by
    intro fs fs' rs may
    obtain ⟨read | ⟨fault, refused⟩, -⟩ := may
    · exact read.symm
    · cases refused
  snapshot_asked := by
    intro fs fs' q reply may asked
    cases q with
    | readCursor => rw [may.2]
    | readSnapshot => rw [may.2]
    | writeCursor h => cases asked
    | writeSnapshot rs => cases asked
  snapshot_of_commit := MayAnswer.snapshot_of_commit
  fatal := fun may => (MayAnswer.lasting may _ rfl).fatal

/-- The checkpoint in two files of which the snapshot is not written with the cursor. What it
    holds is the file at the target of the snapshot's path. -/
def Holding.durable (c : DurableCheckpoint) (clear : ClearOf c.snapshotPath c.cursorPath) :
    Holding {fs : FileSystem // Reaches c.snapshotPath fs} where
  answers fs q reply fs' := c.MayAnswer fs.1 q reply fs'.1
  snapshot fs := c.keptSnapshot fs.1
  snapshot_of_read := by
    intro fs fs' rs may
    obtain ⟨read | ⟨fault, refused⟩, -⟩ := may
    · exact fs.2.keptSnapshot read.symm
    · cases refused
  snapshot_of_write := by
    intro fs fs' rs storable may
    show c.snapshotOfRead _ = _
    rw [FileSystem.fileAt_of_read (MayReplace.read may)]
    exact DurableCheckpoint.snapshotOfRead_written storable
  snapshot_stays := by
    intro fs fs' q reply may none
    refine congrArg c.snapshotOfRead ?_
    cases q with
    | readCursor => rw [may.2]
    | readSnapshot => rw [may.2]
    | writeCursor h => exact (MayReplace.leaves clear may).fileAt
    | writeSnapshot rs =>
      cases reply with
      | error failure => exact (MayReplace.leaves_refused may).fileAt
      | ok _ => cases none
  fatal := fun may => (MayAnswer.lasting may _ rfl).fatal

/-- The same kind of checkpoint, with states that tell more. -/
def Holding.onto {σ τ : Type} (k : Holding σ) (f : τ → σ) : Holding τ where
  answers s q reply s' := k.answers (f s) q reply (f s')
  snapshot s := k.snapshot (f s)
  snapshot_of_read := k.snapshot_of_read
  snapshot_of_write := k.snapshot_of_write
  snapshot_stays := k.snapshot_stays
  fatal := k.fatal

/-- The checkpoint in two files neither of which is written with the other. What it holds are
    the files at the targets of their paths. -/
def Keeping.durable (c : DurableCheckpoint) (clear : ClearOf c.snapshotPath c.cursorPath)
    (clear' : ClearOf c.cursorPath c.snapshotPath) :
    Keeping {fs : FileSystem // Reaches c.cursorPath fs ∧ Reaches c.snapshotPath fs} where
  toHolding := (Holding.durable c clear).onto fun fs => ⟨fs.1, fs.2.2⟩
  cursor fs := c.keptCursor fs.1
  cursor_of_read := by
    intro fs fs' h may
    obtain ⟨read | ⟨fault, refused⟩, -⟩ := may
    · exact fs.2.1.keptCursor read.symm
    · cases refused
  cursor_of_write := by
    intro fs fs' h may
    show c.cursorOfRead _ = _
    rw [FileSystem.fileAt_of_read (MayReplace.read may)]
    exact DurableCheckpoint.cursorOfContent_written _ h
  cursor_stays := by
    intro fs fs' q reply may none
    refine congrArg c.cursorOfRead ?_
    cases q with
    | readCursor => rw [may.2]
    | readSnapshot => rw [may.2]
    | writeSnapshot rs => exact (MayReplace.leaves clear' may).fileAt
    | writeCursor h =>
      cases reply with
      | error failure => exact (MayReplace.leaves_refused may).fileAt
      | ok _ => cases none

/-- Files that go through exchanges under `Storing.durable` do so under `Holding.durable`, if
    the snapshot's path `Reaches` its file at the beginning. -/
theorem Holding.through_durable {c : DurableCheckpoint} (clear : ClearOf c.snapshotPath c.cursorPath)
    {fs fs' : FileSystem} {t : List Exchange} (through : (Storing.durable c).goes.Through fs t fs')
    (reaches : Reaches c.snapshotPath fs) : ∃ reaches' : Reaches c.snapshotPath fs',
      (Holding.durable c clear).goes.Through ⟨fs, reaches⟩ t ⟨fs', reaches'⟩ := by
  refine through.within (fun fs x fs' reaches step => ?_) (fun fs x fs' step => ?_) reaches
  · obtain ⟨request, reply⟩ := x
    cases request with
    | checkpoint q => exact MayAnswer.reaches_snapshot clear reaches step
    | _ => exact (show fs' = fs from step) ▸ reaches
  · obtain ⟨request, reply⟩ := x
    cases request with
    | checkpoint q => exact step
    | _ => exact Subtype.ext step

/-- And under `Keeping.durable`, if both paths reach theirs. -/
theorem Keeping.through_durable {c : DurableCheckpoint} (clear : ClearOf c.snapshotPath c.cursorPath)
    (clear' : ClearOf c.cursorPath c.snapshotPath) {fs fs' : FileSystem} {t : List Exchange}
    (through : (Storing.durable c).goes.Through fs t fs')
    (reaches : Reaches c.cursorPath fs ∧ Reaches c.snapshotPath fs) :
    ∃ reaches' : Reaches c.cursorPath fs' ∧ Reaches c.snapshotPath fs',
      (Keeping.durable c clear clear').goes.Through ⟨fs, reaches⟩ t ⟨fs', reaches'⟩ := by
  refine through.within (P := fun fs => Reaches c.cursorPath fs ∧ Reaches c.snapshotPath fs)
    (fun fs x fs' reaches step => ?_) (fun fs x fs' step => ?_) reaches
  · obtain ⟨request, reply⟩ := x
    cases request with
    | checkpoint q =>
      exact ⟨MayAnswer.reaches_cursor clear' reaches.1 step,
        MayAnswer.reaches_snapshot clear reaches.2 step⟩
    | _ => exact (show fs' = fs from step) ▸ reaches
  · obtain ⟨request, reply⟩ := x
    cases request with
    | checkpoint q => exact step
    | _ => exact Subtype.ext step

end StakeRelay
