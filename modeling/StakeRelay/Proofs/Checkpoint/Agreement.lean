/-
  StakeRelay.Proofs.Checkpoint.Agreement — two files answer as the memory does.

  A checkpoint in a directory and a checkpoint in memory are asked the same questions. As
  long as no call of the file system fails, the answers are the same.

  Each file either holds what the memory holds, in its byte form, or it was never written,
  and then nothing but a directory can stand in its place. A replacement of one file makes
  directories, writes the sibling and moves it into place, so it changes no other place but
  by a directory in a free one. The directory of the checkpoint may be given by any path,
  also by one that leads up again.

  Main statements:
    * `DurableCheckpoint.Agrees.answer` — one question;
    * `durable_answers_as_volatile` — any number of questions.
-/

import StakeRelay.Proofs.Checkpoint.DurableKeeping
import StakeRelay.Proofs.Checkpoint.SnapshotBytes

namespace StakeRelay

/-! ## §1. Calls that do not fail -/

namespace DurableCheckpoint

open FileSystem (Leaves)

/-- Every call that replaces a file does what it is meant to. -/
def Replaced (fs : FileSystem) (path : String) (content : Bytes) (fs' : FileSystem) : Prop :=
  ∃ made written, makeParent fs path = (.ok (), made) ∧
    made.write (siblingOf path) content = (.ok (), written) ∧
    written.rename (siblingOf path) path = (.ok (), fs')

/-- The file can be read, or it is not there. -/
def Readable (fs : FileSystem) (path : String) : Prop :=
  (∃ content, fs.read path = .ok content) ∨ fs.read path = .error .missing

/-- No call of the file system fails that a question leads to. -/
def Undisturbed (c : DurableCheckpoint) (fs : FileSystem) : CheckpointQuery → Prop
  | .readCursor => Readable fs c.cursorPath
  | .writeCursor height => ∃ fs', Replaced fs c.cursorPath (contentOfCursor height) fs'
  | .readSnapshot => Readable fs c.snapshotPath
  | .writeSnapshot snapshot => ∃ fs', Replaced fs c.snapshotPath (SnapshotForm.encode snapshot) fs'

/-- No call of the file system fails that the questions lead to, one after another. -/
def AllUndisturbed (c : DurableCheckpoint) : List CheckpointQuery → FileSystem → Prop
  | [], _ => True
  | q :: qs, fs => c.Undisturbed fs q ∧ c.AllUndisturbed qs (c.answer q fs).2

section Replacing

variable {c : DurableCheckpoint} {fs fs' : FileSystem} {path : String} {content : Bytes}

theorem Replaced.answers (replaced : Replaced fs path content fs') :
    replace fs path content = (.ok (), fs') := by
  obtain ⟨made, written, makes, writes, moves⟩ := replaced
  unfold replace
  simp only [makes, writes, moves]

/-- A replacement (`replace`) that is reported as done was done call by call (`Replaced`). -/
theorem exists_replaced_iff :
    (∃ fs', Replaced fs path content fs') ↔ (replace fs path content).1.isOk = true := by
  constructor
  · rintro ⟨fs', replaced⟩
    rw [replaced.answers]
    rfl
  · intro done
    unfold replace at done
    split at done
    · cases done
    rename_i made makes
    split at done
    · cases done
    rename_i written writes
    split at done
    · cases done
    · rename_i moved moves
      exact ⟨moved, made, written, makes, writes, moves⟩

instance (fs : FileSystem) (path : String) : Decidable (Readable fs path) :=
  match read : fs.read path with
  | .ok content => .isTrue (.inl ⟨content, read⟩)
  | .error fault =>
    if missing : fault = .missing then .isTrue (.inr (missing ▸ read))
    else .isFalse fun readable => by
      rcases readable with ⟨content, whole⟩ | gone
      · rw [whole] at read
        cases read
      · rw [gone] at read
        injection read with same
        exact missing same.symm

instance (c : DurableCheckpoint) (fs : FileSystem) :
    (q : CheckpointQuery) → Decidable (c.Undisturbed fs q)
  | .readCursor => inferInstanceAs (Decidable (Readable fs c.cursorPath))
  | .writeCursor _ => decidable_of_iff _ exists_replaced_iff.symm
  | .readSnapshot => inferInstanceAs (Decidable (Readable fs c.snapshotPath))
  | .writeSnapshot _ => decidable_of_iff _ exists_replaced_iff.symm

instance allUndisturbedDecidable (c : DurableCheckpoint) :
    (qs : List CheckpointQuery) → (fs : FileSystem) → Decidable (c.AllUndisturbed qs fs)
  | [], _ => .isTrue trivial
  | q :: qs, fs =>
    have := allUndisturbedDecidable c qs (c.answer q fs).2
    inferInstanceAs (Decidable (c.Undisturbed fs q ∧ c.AllUndisturbed qs (c.answer q fs).2))

theorem Replaced.read (replaced : Replaced fs path content fs') : fs'.read path = .ok content := by
  obtain ⟨made, written, -, writes, moves⟩ := replaced
  exact read_moved ⟨written, writes, moves⟩

/-- A replacement leaves alone what a path leads to that is `ClearOf` it. -/
theorem Replaced.leaves {other : String} (clear : ClearOf other path)
    (replaced : Replaced fs path content fs') : Leaves (Path.target other) fs fs' :=
  MayReplace.leaves clear (.inl replaced.answers.symm)

end Replacing

/-! ## §2. The same answers -/

/-- The files in a directory hold what the memory holds, or were never written. -/
structure Agrees (directory : String) (fs : FileSystem) (v : VolatileCheckpoint) : Prop where
  cursor : v.cursor = none ∧ fs.Unwritten (inDirectory directory).cursorPath ∨
    ∃ height, v.cursor = some height ∧
      fs.read (inDirectory directory).cursorPath = .ok (contentOfCursor height)
  snapshot : v.snapshot = [] ∧ fs.Unwritten (inDirectory directory).snapshotPath ∨
    SnapshotForm.Storable v.snapshot ∧
      fs.read (inDirectory directory).snapshotPath = .ok (SnapshotForm.encode v.snapshot)
  takesCursors : v.refusesCursors = false
  takesSnapshots : v.refusesSnapshots = false

section Answers

variable {directory : String} {fs : FileSystem} {v : VolatileCheckpoint} {path : String}

/-- What is `Unwritten` is found missing. -/
theorem Readable.missing (readable : Readable fs path) (unwritten : fs.Unwritten path) :
    fs.read path = .error .missing := by
  rcases readable with ⟨content, whole⟩ | missing
  · exact absurd (FileSystem.read_eq_ok whole).2 (unwritten content)
  · exact missing

theorem Agrees.readCursor (agrees : Agrees directory fs v)
    (readable : Readable fs (inDirectory directory).cursorPath) :
    (inDirectory directory).readCursor fs = .ok (v.cursor.getD 0) := by
  unfold DurableCheckpoint.readCursor cursorOfRead
  rcases agrees.cursor with ⟨none, unwritten⟩ | ⟨height, some, whole⟩
  · rw [readable.missing unwritten, none]
    rfl
  · rw [whole, some]
    exact cursorOfContent_written _ height

theorem Agrees.readSnapshot (agrees : Agrees directory fs v)
    (readable : Readable fs (inDirectory directory).snapshotPath) :
    (inDirectory directory).readSnapshot fs = .ok v.snapshot := by
  unfold DurableCheckpoint.readSnapshot snapshotOfRead
  rcases agrees.snapshot with ⟨none, unwritten⟩ | ⟨storable, whole⟩
  · rw [readable.missing unwritten, none]
    rfl
  · have some : SnapshotForm.encode v.snapshot ≠ [] := Rlp.encodeList_ne_nil _
    rw [whole]
    simp only [ifThere, snapshotOfContent, if_neg some]
    exact SnapshotForm.decode_written storable

/-- Both checkpoints give the same answer, and `Agrees` holds behind it. -/
theorem Agrees.answer (agrees : Agrees directory fs v) (q : CheckpointQuery)
    (storable : ∀ rs, q = .writeSnapshot rs → SnapshotForm.Storable rs)
    (undisturbed : (inDirectory directory).Undisturbed fs q) :
    ((inDirectory directory).answer q fs).1 = (VolatileCheckpoint.answer q v).1 ∧
      Agrees directory ((inDirectory directory).answer q fs).2 (VolatileCheckpoint.answer q v).2 := by
  cases q with
  | readCursor => exact ⟨agrees.readCursor undisturbed, agrees⟩
  | readSnapshot => exact ⟨agrees.readSnapshot undisturbed, agrees⟩
  | writeCursor height =>
    obtain ⟨fs', replaced⟩ := undisturbed
    have leaves := replaced.leaves (clearOf_cursorPath directory)
    simp only [DurableCheckpoint.answer, VolatileCheckpoint.answer, replaced.answers,
      agrees.takesCursors, Bool.false_eq_true, if_false, true_and]
    exact ⟨.inr ⟨height, rfl, replaced.read⟩,
      agrees.snapshot.imp (And.imp_right fun unwritten => unwritten.left leaves)
        (And.imp_right leaves.read), rfl, agrees.takesSnapshots⟩
  | writeSnapshot rs =>
    obtain ⟨fs', replaced⟩ := undisturbed
    have leaves := replaced.leaves (clearOf_snapshotPath directory)
    simp only [DurableCheckpoint.answer, VolatileCheckpoint.answer, replaced.answers,
      agrees.takesSnapshots, Bool.false_eq_true, if_false, true_and]
    exact ⟨agrees.cursor.imp (And.imp_right fun unwritten => unwritten.left leaves)
        (Exists.imp fun _ => And.imp_right leaves.read),
      .inr ⟨storable rs rfl, replaced.read⟩, agrees.takesCursors, rfl⟩

end Answers

end DurableCheckpoint

/-- What a checkpoint answers to questions, one after another. -/
def CheckpointQuery.replies {σ : Type}
    (answer : (q : CheckpointQuery) → σ → Except Failure q.Reply × σ) :
    List CheckpointQuery → σ → List Exchange
  | [], _ => []
  | q :: qs, s => ⟨.checkpoint q, (answer q s).1⟩ :: replies answer qs (answer q s).2

open CheckpointQuery (replies)
open DurableCheckpoint (Agrees)

theorem DurableCheckpoint.Agrees.replies_eq {directory : String} {fs : FileSystem}
    {v : VolatileCheckpoint} {qs : List CheckpointQuery} (agrees : Agrees directory fs v)
    (storable : ∀ rs, .writeSnapshot rs ∈ qs → SnapshotForm.Storable rs)
    (undisturbed : (inDirectory directory).AllUndisturbed qs fs) :
    replies (inDirectory directory).answer qs fs = replies VolatileCheckpoint.answer qs v := by
  induction qs generalizing fs v with
  | nil => rfl
  | cons q qs ih =>
    obtain ⟨first, rest⟩ := undisturbed
    have asks : ∀ rs, q = .writeSnapshot rs → SnapshotForm.Storable rs := by
      rintro rs rfl
      exact storable rs List.mem_cons_self
    obtain ⟨same, agrees⟩ := agrees.answer q asks first
    rw [replies, replies, same]
    exact congrArg _ (ih agrees (fun rs asked => storable rs (List.mem_cons_of_mem q asked)) rest)

/-- A checkpoint in a directory without its two files (`FileSystem.Unwritten`) answers any
    questions `qs` as one in memory that was never written, if no call of the file system fails
    (`AllUndisturbed`). The directory need not be there, nor need the path of it be plain. The
    records are such as there are (`SnapshotForm.Storable`): their keys are made from their
    addresses, and their bytes can be counted. -/
theorem durable_answers_as_volatile (directory : String) (fs : FileSystem)
    (qs : List CheckpointQuery)
    (cursorFree : fs.Unwritten (DurableCheckpoint.inDirectory directory).cursorPath)
    (snapshotFree : fs.Unwritten (DurableCheckpoint.inDirectory directory).snapshotPath)
    (storable : ∀ rs, .writeSnapshot rs ∈ qs → SnapshotForm.Storable rs)
    (undisturbed : (DurableCheckpoint.inDirectory directory).AllUndisturbed qs fs) :
    replies (DurableCheckpoint.inDirectory directory).answer qs fs =
      replies VolatileCheckpoint.answer qs .empty :=
  DurableCheckpoint.Agrees.replies_eq
    ⟨.inl ⟨rfl, cursorFree⟩, .inl ⟨rfl, snapshotFree⟩, rfl, rfl⟩ storable undisturbed

/-- Questions in which a short cursor replaces a long one and an empty snapshot a full one. -/
def CheckpointQuery.mixed : List CheckpointQuery :=
  [.readCursor, .readSnapshot, .writeCursor 18446744073709551615,
    .writeSnapshot SnapshotForm.single, .readCursor, .writeCursor 7, .readSnapshot,
    .writeSnapshot [], .readCursor, .readSnapshot]

/-- The ten questions of `CheckpointQuery.mixed` are answered alike in a directory that is not
    there yet. -/
theorem mixed_questions_answered_alike :
    replies (DurableCheckpoint.inDirectory "state/../relay").answer CheckpointQuery.mixed .empty =
        replies VolatileCheckpoint.answer CheckpointQuery.mixed .empty ∧
      (replies VolatileCheckpoint.answer CheckpointQuery.mixed .empty).length = 10 := by
  have storable : ∀ rs, .writeSnapshot rs ∈ CheckpointQuery.mixed → SnapshotForm.Storable rs := by
    intro rs asked
    have written : rs = SnapshotForm.single ∨ rs = [] := by
      simpa [CheckpointQuery.mixed] using asked
    rcases written with rfl | rfl
    · exact SnapshotForm.storable_of_length (by decide) (by decide)
    · exact SnapshotForm.storable_of_length nofun (by decide)
  refine ⟨durable_answers_as_volatile _ _ _ ?_ ?_ storable ?_, rfl⟩
  · intro content there
    cases there
  · intro content there
    cases there
  · decide +kernel

end StakeRelay
