/-
  StakeRelay.Proofs.Checkpoint.Independence — writing one file and reading the other.

  The two files of a checkpoint may stand anywhere. A file is replaced by way of a sibling, so a
  write touches three kinds of places: the directories on the way, the sibling and the file
  itself. The other file is read past all of them, unless it stands in the sibling or inside it:
  then it is overwritten and moved away.

  A directory that is made shows in one case. A file that is missing because a directory in
  front of it is missing reads as nothing. If the directory is made and the next name is too
  long to be one, the same file cannot be read any more.

  Main statements:
    * `DurableCheckpoint.Moved.exists_join` — what was replaced is a name below a directory;
    * `DurableCheckpoint.read_other`, `DurableCheckpoint.read_sibling` — how another path is read
      after a replacement;
    * `files_are_independent` — for both files of a checkpoint;
    * `files_can_clash` — in the siblings and behind long names they are not.
-/

import StakeRelay.Proofs.Checkpoint.RefusedWrites

namespace StakeRelay

/-! ## §1. Paths of files -/

namespace Path

/-- A text is cut behind its last slash. -/
theorem exists_last_stretch (cs : List Char) :
    ∃ a b, cs = a ++ b ∧ '/' ∉ b ∧ (a = [] ∨ ∃ c, a = c ++ ['/']) := by
  induction cs with
  | nil => exact ⟨[], [], rfl, List.not_mem_nil, .inl rfl⟩
  | cons first cs ih =>
    obtain ⟨a, b, rfl, solid, rfl | ⟨c, rfl⟩⟩ := ih
    · by_cases slash : first = '/'
      · subst slash
        exact ⟨['/'], b, rfl, solid, .inr ⟨[], rfl⟩⟩
      · refine ⟨[], first :: b, rfl, ?_, .inl rfl⟩
        rw [List.mem_cons]
        rintro (same | member)
        · exact slash same.symm
        · exact solid member
    · exact ⟨first :: c ++ ['/'], b, rfl, solid, .inr ⟨first :: c, rfl⟩⟩

/-- The last step of a path is what stands behind its last slash. -/
theorem exists_steps_concat {path : String} {a b : List Char} (whole : path.toList = a ++ b)
    (solid : '/' ∉ b) (some : b ≠ []) (cut : a = [] ∨ ∃ c, a = c ++ ['/']) :
    ∃ names, steps path = names ++ [String.ofList b] := by
  have last : path.toList.getLast? ≠ .some '/' := by
    rw [whole, List.getLast?_append, ne_eq, Option.or_eq_some_iff]
    rintro (slash | ⟨none, -⟩)
    · exact solid (List.mem_of_getLast? slash)
    · exact some (List.getLast?_eq_none_iff.mp none)
  rw [steps_of_open last, whole]
  rcases cut with rfl | ⟨c, rfl⟩
  · exact ⟨[], by rw [List.nil_append, named_solid solid some, List.nil_append]⟩
  · refine ⟨named c, ?_⟩
    rw [List.append_assoc, List.singleton_append, named_append, named_solid solid some]

/-- A path is a name below a directory, unless it is empty or its last step is made of dots. -/
theorem exists_join (path : String) :
    (∃ directory name, IsName name ∧ path = join directory name) ∨ path = "" ∨
      (∃ names, steps path = names ++ ["."]) ∨ ".." ∈ steps path := by
  obtain ⟨a, b, whole, solid, cut⟩ := exists_last_stretch path.toList
  -- with nothing behind the last slash the path is followed as if a dot stood there
  by_cases none : b = []
  · rw [none, List.append_nil] at whole
    rcases cut with rfl | ⟨c, rfl⟩
    · exact .inr (.inl (String.toList_inj.mp whole))
    · refine .inr (.inr (.inl ⟨named path.toList, steps_of_slash ?_⟩))
      rw [whole, List.getLast?_concat]
  obtain ⟨names, ends⟩ := exists_steps_concat whole solid none cut
  by_cases dot : String.ofList b = "."
  · exact .inr (.inr (.inl ⟨names, by rw [ends, dot]⟩))
  by_cases dots : String.ofList b = ".."
  · exact .inr (.inr (.inr (by rw [ends, dots]; simp)))
  have n : IsName (String.ofList b) := by
    refine ⟨fun empty => none ?_, by rwa [String.toList_ofList], dot, dots⟩
    have chars := congrArg String.toList empty
    rwa [String.toList_ofList] at chars
  refine .inl ⟨String.ofList a, String.ofList b, n, ?_⟩
  -- the directory ends with the slash, so joining puts no other one between
  have open_ : (String.ofList a).toList.getLast?.all (· = '/') = true := by
    rw [String.toList_ofList]
    rcases cut with rfl | ⟨c, rfl⟩
    · rfl
    · rw [List.getLast?_concat]
      rfl
  unfold join
  rw [n.relative, if_neg Bool.false_ne_true, if_pos open_]
  refine String.toList_inj.mp ?_
  rw [whole, String.toList_append, String.toList_ofList, String.toList_ofList]

end Path

namespace FileSystem

variable {fs fs' : FileSystem} {l m : Location}

/-- A dot at the end asks for a directory. -/
theorem follow_dot {names : List String} (ends : fs.follow l (names ++ ["."]) = .ok m) :
    fs.node? m = some .directory := by
  -- induction on the names in front of the dot
  induction names generalizing l with
  | nil =>
    obtain ⟨here, -, later⟩ := follow_cons_ok_iff.mp ends
    rw [onward_dot] at later
    cases later
    exact here
  | cons name rest ih =>
    obtain ⟨-, -, later⟩ := follow_cons_ok_iff.mp ends
    exact ih later

end FileSystem

/-! ## §2. Reading past a replacement -/

namespace DurableCheckpoint

variable {fs fs' : FileSystem} {path other : String} {content : Bytes}

/-- What was replaced is a name below a directory. -/
theorem Moved.exists_join (moved : Moved fs path content fs') (down : ".." ∉ Path.steps path) :
    ∃ directory name, Path.IsName name ∧ ".." ∉ Path.named directory.toList ∧
      path = Path.join directory name := by
  obtain ⟨written, -, renamed⟩ := moved
  rcases FileSystem.rename_cases written (siblingOf path) path with
    ⟨a, b, moving, -, found, -, free, -⟩ | ⟨fault, refused⟩
  case inr => cases refused.symm.trans renamed
  obtain ⟨-, some, ends⟩ := FileSystem.locate_eq_ok found
  rcases Path.exists_join path with ⟨directory, name, n, rfl⟩ | none | ⟨names, dot⟩ | dots
  · rw [Path.steps_join n] at down
    exact ⟨directory, name, n, fun dots => down (List.mem_append_left _ dots), rfl⟩
  · exact absurd none some
  · rw [dot] at ends
    exact absurd (FileSystem.follow_dot ends) free
  · exact absurd dots down

/-- A replacement that succeeds made what it needed and moved the file. -/
theorem moved_of_replace (done : replace fs path content = (.ok (), fs')) :
    ∃ made, Interrupted fs path made ∧ Moved made path content fs' := by
  have may : MayReplace fs path content (.ok ()) fs' := .inl done.symm
  rcases may.cases with ⟨-, moved⟩ | ⟨⟨fault, refused⟩, -⟩
  · exact moved
  · cases refused

theorem hasLongName_of_steps {name : String} (member : name ∈ Path.steps path)
    (long : FileSystem.nameLimit < name.utf8ByteSize) : HasLongName path := by
  refine ⟨name, ?_, long⟩
  unfold Path.steps at member
  split at member
  · rcases List.mem_append.mp member with within | dot
    · exact within
    · rw [List.mem_singleton.mp dot] at long
      exact absurd long (by decide)
  · exact member

/-- How another path is read after a replacement, unless it leads to the file, to its sibling
    or into one of them, or stands on the way to them. -/
theorem read_other (sound : fs.Sound) (down : ".." ∉ Path.steps path)
    (down' : ".." ∉ Path.steps other) (outside : ¬ Path.place other <+: Path.place path)
    (apart : ¬ Path.place path <+: Path.place other)
    (clear : ¬ Path.place (siblingOf path) <+: Path.place other)
    (done : replace fs path content = (.ok (), fs')) :
    Reread other (fs.read other) (fs'.read other) := by
  obtain ⟨made, before, moved⟩ := moved_of_replace done
  obtain ⟨directory, name, n, within, rfl⟩ := moved.exists_join down
  -- no directory is made at the other path, for nothing on the way to the file is
  have above : ¬ Path.place other <+: Path.place directory := fun above => by
    rw [Path.place_join n] at outside
    exact outside (above.trans (List.prefix_append _ _))
  have making : FileSystem.Spares (Path.place other) fs made := by
    rw [Path.place_sibling_join directory n] at clear
    exact before.spares_join n within above clear
  have moving := moved.spares_down down (Path.down_sibling_join n within) clear apart
  refine (FileSystem.read_of_spares_down sound down' (making.trans moving)).imp_right
    (And.imp_left fun ⟨step, member, long⟩ => hasLongName_of_steps member long)

/-- After a replacement nothing is in the sibling. -/
theorem read_sibling (done : replace fs path content = (.ok (), fs')) :
    fs'.read (siblingOf path) = .error .missing := by
  obtain ⟨made, -, moved⟩ := moved_of_replace done
  unfold FileSystem.read
  rw [moved.placed.siblingLocated]
  simp only [moved.placed.sibling]

/-- What could be read is read again. -/
theorem Undone.eq_of_ne {α : Type} {missing : α} {before after : Except Failure α} {directory : String}
    (undone : Undone directory path missing before after) (there : before ≠ .ok missing) :
    after = before := undone.resolve_right fun ⟨_, same, _⟩ => there same

theorem answered {reply : Except Failure Unit × FileSystem} (done : reply.1.isOk = true) :
    reply = (.ok (), reply.2) := by
  obtain ⟨outcome, fs⟩ := reply
  cases outcome with
  | error failure => cases done
  | ok _ => rfl

/-! ## §3. The two files -/

/-- The paths start at the same place, both at the root or both where the process works, which is
    the root here: no path leads up, so nothing above it matters. They lead to two places, and
    neither is inside the other. -/
structure Separate (c : DurableCheckpoint) : Prop where
  sameStart : Path.isAbsolute c.cursorPath = Path.isAbsolute c.snapshotPath
  cursorDown : ".." ∉ Path.steps c.cursorPath
  snapshotDown : ".." ∉ Path.steps c.snapshotPath
  cursorOutside : ¬ Path.place c.snapshotPath <+: Path.place c.cursorPath
  snapshotOutside : ¬ Path.place c.cursorPath <+: Path.place c.snapshotPath

/-- Neither file is the sibling of the other or inside of it. -/
structure ClearOfSiblings (c : DurableCheckpoint) : Prop where
  cursor : ¬ Path.place (siblingOf c.snapshotPath) <+: Path.place c.cursorPath
  snapshot : ¬ Path.place (siblingOf c.cursorPath) <+: Path.place c.snapshotPath

end DurableCheckpoint

open DurableCheckpoint (Undone answered)

/-- A cursor that is written changes nothing about the snapshot that is read, and a snapshot
    that is written nothing about the cursor, if the two paths are `Separate` and neither names
    the other's sibling or a place inside of it (`ClearOfSiblings`); only where a name of the
    other path is too long may a read of a missing file become a fault (`Undone`). -/
theorem files_are_independent {c : DurableCheckpoint} {fs : FileSystem} (sound : fs.Sound)
    (separate : c.Separate) (clear : c.ClearOfSiblings) :
    (∀ height fs', c.answer (.writeCursor height) fs = (.ok (), fs') →
        Undone c.snapshotPath c.snapshotPath [] (c.readSnapshot fs) (c.readSnapshot fs')) ∧
      ∀ records fs', c.answer (.writeSnapshot records) fs = (.ok (), fs') →
        Undone c.cursorPath c.cursorPath 0 (c.readCursor fs) (c.readCursor fs') := by
  refine ⟨fun height fs' done => ?_, fun records fs' done => ?_⟩
  · have again := DurableCheckpoint.read_other sound separate.cursorDown separate.snapshotDown
      separate.cursorOutside separate.snapshotOutside clear.snapshot done
    exact again.undone rfl rfl
  · have again := DurableCheckpoint.read_other sound separate.snapshotDown separate.cursorDown
      separate.snapshotOutside separate.cursorOutside clear.cursor done
    exact again.undone rfl rfl

/-- A checkpoint whose snapshot has the name of the cursor's sibling and more behind it. -/
def DurableCheckpoint.close : DurableCheckpoint := ⟨"a/latest_block", "a/latest_block.tmp.rlp"⟩

/-- Both files of it. -/
def FileSystem.close : FileSystem :=
  ((FileSystem.empty.put ["a"] .directory).put ["a", "latest_block"] (.file [53])).put
    ["a", "latest_block.tmp.rlp"] (.file (SnapshotForm.encode SnapshotForm.single))

open DurableCheckpoint (close)

theorem FileSystem.Sound.close : FileSystem.close.Sound :=
  ((FileSystem.Sound.empty.put rfl (.inl rfl)).put rfl (.inr (by decide))).put rfl (.inr (by decide))

/-- Neither of them is changed by writing the other. -/
theorem close_files_are_kept :
    (close.Separate ∧ close.ClearOfSiblings) ∧
      (close.readSnapshot (close.answer (.writeCursor 7) .close).2 = close.readSnapshot .close ∧
        (close.readSnapshot .close).toOption = some SnapshotForm.single) ∧
      close.readCursor (close.answer (.writeSnapshot []) .close).2 = close.readCursor .close ∧
        (close.readCursor .close).toOption = some 5 := by
  have separate : close.Separate := by constructor <;> decide +kernel
  have clear : close.ClearOfSiblings := by constructor <;> decide +kernel
  have snapshot : (close.readSnapshot .close).toOption = some SnapshotForm.single := by
    decide +kernel
  have cursor : (close.readCursor .close).toOption = some 5 := by decide +kernel
  obtain ⟨ofCursor, ofSnapshot⟩ := files_are_independent .close separate clear
  have past := ofCursor 7 _ (answered (by decide +kernel))
  have past' := ofSnapshot [] _ (answered (by decide +kernel))
  refine ⟨⟨separate, clear⟩, ⟨past.eq_of_ne fun none => ?_, snapshot⟩,
    past'.eq_of_ne fun none => ?_, cursor⟩
  · rw [none] at snapshot
    cases snapshot
  · rw [none] at cursor
    cases cursor

/-! ## §4. Files that disturb each other -/

/-- The files are separate, and a cursor that is written changes what the snapshot reads as. -/
structure DurableCheckpoint.Disturbs (c : DurableCheckpoint) (fs : FileSystem) : Prop where
  separate : c.Separate
  sound : fs.Sound
  written : (c.answer (.writeCursor 7) fs).1 = .ok ()
  changed : c.readSnapshot (c.answer (.writeCursor 7) fs).2 ≠ c.readSnapshot fs

namespace DurableCheckpoint

/-- A snapshot that is kept in the cursor's sibling is lost when a cursor is written. -/
theorem readSnapshot_of_sibling {c : DurableCheckpoint} {fs fs' : FileSystem} {height : UInt64}
    (sibling : c.snapshotPath = siblingOf c.cursorPath)
    (written : c.answer (.writeCursor height) fs = (.ok (), fs')) : c.readSnapshot fs' = .ok [] := by
  unfold readSnapshot
  rw [sibling, read_sibling written]
  rfl

/-- The snapshot is in the cursor's sibling. -/
def clashing : DurableCheckpoint := ⟨"latest_block", "latest_block.tmp"⟩

/-- The snapshot is inside of the cursor's sibling. -/
def inside : DurableCheckpoint := ⟨"latest_block", "latest_block.tmp/stake_info.rlp"⟩

/-- The snapshot is beside the cursor, with a name that is too long. -/
def overlong : DurableCheckpoint := ⟨"a/latest_block", longDirectory⟩

end DurableCheckpoint

/-- A file in the cursor's sibling. -/
def FileSystem.inSibling : FileSystem :=
  FileSystem.empty.put ["latest_block.tmp"] (.file (SnapshotForm.encode SnapshotForm.single))

theorem FileSystem.Sound.inSibling : FileSystem.inSibling.Sound :=
  FileSystem.Sound.empty.put rfl (.inr (by decide))

namespace DurableCheckpoint

theorem disturbs_clashing : clashing.Disturbs .inSibling := by
  have separate : clashing.Separate := by constructor <;> decide +kernel
  have held : (clashing.readSnapshot .inSibling).toOption = some SnapshotForm.single := by
    decide +kernel
  have written : clashing.answer (.writeCursor 7) .inSibling = _ := answered (by decide +kernel)
  refine ⟨separate, .inSibling, congrArg Prod.fst written, fun same => ?_⟩
  -- the snapshot that was held there would be the empty one
  rw [readSnapshot_of_sibling (by decide +kernel) written] at same
  rw [← same] at held
  cases held

theorem disturbs_inside : inside.Disturbs .inSibling := by
  have blocked : (inside.readSnapshot .inSibling).toOption = none := by decide +kernel
  have freed : (inside.readSnapshot (inside.answer (.writeCursor 7) .inSibling).2).toOption =
      some [] := by decide +kernel
  have written : inside.answer (.writeCursor 7) .inSibling = _ := answered (by decide +kernel)
  refine ⟨by constructor <;> decide +kernel, .inSibling, congrArg Prod.fst written, fun same => ?_⟩
  rw [same, blocked] at freed
  cases freed

/-! The last of them is not in a sibling, and its name is not looked at while the directory in
    front of it is missing. -/

theorem isName_longName : Path.IsName (String.ofList longName) where
  some := longName_ne (by decide)
  solid := by
    rw [String.toList_ofList]
    exact fun slash => absurd (List.eq_of_mem_replicate slash) (by decide)
  noDot := longName_ne (by decide)
  noDots := longName_ne (by decide)

theorem join_longName : Path.join "a" (String.ofList longName) = longDirectory := by
  unfold Path.join
  rw [isName_longName.relative, if_neg Bool.false_ne_true, if_neg (by decide)]
  refine String.toList_inj.mp ?_
  rw [longDirectory, String.toList_append, String.toList_ofList, String.toList_ofList]
  rfl

/-- Where its files and their siblings are. -/
theorem places_overlong :
    (Path.place overlong.cursorPath = ["a"] ++ ["latest_block"] ∧
      Path.place (siblingOf overlong.cursorPath) = ["a"] ++ ["latest_block.tmp"]) ∧
    Path.place overlong.snapshotPath = ["a"] ++ [String.ofList longName] ∧
      Path.place (siblingOf overlong.snapshotPath) = ["a"] ++ [String.ofList longName ++ ".tmp"] := by
  have here : Path.place "a" = ["a"] := by decide +kernel
  refine ⟨by decide +kernel, ?_, ?_⟩
  · rw [← here, ← Path.place_join isName_longName, join_longName]
    rfl
  · rw [← here, ← Path.place_sibling_join "a" isName_longName, join_longName]
    rfl

theorem separate_overlong : overlong.Separate := by
  obtain ⟨⟨cursor, -⟩, snapshot, -⟩ := places_overlong
  refine ⟨?_, by decide +kernel, down_longDirectory, ?_, ?_⟩
  · unfold Path.isAbsolute overlong longDirectory
    simp only [String.toList_ofList]
    rfl
  · rw [cursor, snapshot]
    exact Path.not_onward (longName_ne (by decide))
  · rw [cursor, snapshot]
    exact Path.not_onward (longName_ne (by decide)).symm

theorem clearOfSiblings_overlong : overlong.ClearOfSiblings := by
  obtain ⟨⟨cursor, sibling⟩, snapshot, sibling'⟩ := places_overlong
  constructor
  · rw [cursor, sibling']
    refine Path.not_onward fun same => ?_
    have longer := congrArg String.utf8ByteSize same
    have long := longName_tooLong
    rw [String.utf8ByteSize_append] at longer
    have short : "latest_block".utf8ByteSize ≤ FileSystem.nameLimit := by decide
    omega
  · rw [snapshot, sibling]
    exact Path.not_onward (longName_ne (by decide)).symm

theorem disturbs_overlong : overlong.Disturbs .empty := by
  have written : overlong.answer (.writeCursor 7) .empty = _ := answered (by decide +kernel)
  -- the cursor needs the directory that the snapshot's name is looked up in
  have made : (overlong.answer (.writeCursor 7) .empty).2.node? ["a"] = some .directory := by
    decide +kernel
  have read := read_below evaluated_long.2.1 steps_longDirectory
  refine ⟨separate_overlong, .empty, congrArg Prod.fst written, fun same => ?_⟩
  have before : FileSystem.empty.read overlong.snapshotPath = .error .missing :=
    (read _).trans (FileSystem.readFrom_free rfl _)
  have after : (overlong.answer (.writeCursor 7) .empty).2.read overlong.snapshotPath =
      .error .nameTooLong :=
    (read _).trans (FileSystem.readFrom_long made longName_tooLong)
  unfold readSnapshot at same
  rw [before, after] at same
  cases same

end DurableCheckpoint

open DurableCheckpoint (clashing inside overlong)

/-- Paths that are `Separate` disturb each other when one is the sibling of the other or inside
    of it; and where they are `ClearOfSiblings`, a directory that is made can still show. -/
theorem files_can_clash :
    clashing.Disturbs .inSibling ∧ inside.Disturbs .inSibling ∧
      overlong.ClearOfSiblings ∧ overlong.Disturbs .empty :=
  ⟨DurableCheckpoint.disturbs_clashing, DurableCheckpoint.disturbs_inside,
    DurableCheckpoint.clearOfSiblings_overlong, DurableCheckpoint.disturbs_overlong⟩

end StakeRelay
