/-
  StakeRelay.Proofs.Checkpoint.Keeping — what a checkpoint promises to its only user.

  A kind of checkpoint is given by the answers it may give in a state, the state that comes
  after them, and what it holds in a state. Its laws are those of a checkpoint that nobody
  else writes, in three steps, each with more promises than the one before:
    * `Storing` — a snapshot that is read is the one that is held, asking for it changes
      nothing, and behind a commit, the snapshot written and then the cursor, what is held is
      that snapshot or none;
    * `Holding` — an accepted snapshot is held from then on, and nothing else that is answered
      changes it, a refused write neither;
    * `Keeping` — the same of the cursor.
  No failure of a checkpoint is one that may pass. A write may be refused at any time, so
  whatever follows from the laws holds for every pattern of refusals.

  Two files promise as much as their paths allow: any two are a `Storing`, and more if neither
  is written with the other (see `Storing.durable`, `Holding.durable`, `Keeping.durable`).

  Main statements:
    * `Keeping.volatile` — the checkpoint in memory keeps the laws;
    * `Storing.fatal_through` — no call of a checkpoint is tried again;
    * `Storing.through_around` — exchanges with a checkpoint, and their account.
-/

import StakeRelay.Checkpoint.Volatile
import StakeRelay.Proofs.Checkpoint.SnapshotForm
import StakeRelay.Proofs.Dialogue.Chronicle
import StakeRelay.Proofs.Dialogue.Conduct

namespace StakeRelay

/-! ## §1. Accepted writes -/

/-- The cursor that the checkpoint took in an exchange. -/
def Exchange.takenCursor? : Exchange → Option UInt64
  | ⟨.checkpoint (.writeCursor cursor), .ok ()⟩ => some cursor
  | _ => none

/-- The snapshot that the checkpoint took in an exchange. -/
def Exchange.takenSnapshot? : Exchange → Option (List StakerRecord)
  | ⟨.checkpoint (.writeSnapshot snapshot), .ok ()⟩ => some snapshot
  | _ => none

/-- The checkpoint takes nothing in an exchange that has no effect. -/
theorem Exchange.taken_of_quiet {c : Chronicle} {x : Exchange} (quiet : c.effectOf x = none) :
    x.takenCursor? = none ∧ x.takenSnapshot? = none := by
  obtain ⟨request, reply⟩ := x
  cases request with
  | checkpoint q => cases q <;> cases reply <;> first | exact ⟨rfl, rfl⟩ | cases quiet
  | _ => exact ⟨rfl, rfl⟩

/-! ## §2. Laws of a checkpoint -/

/-- Whether the checkpoint is to be written. -/
def Request.writes : Request → Bool
  | .checkpoint (.writeCursor _) => true
  | .checkpoint (.writeSnapshot _) => true
  | _ => false

/-- A kind of checkpoint with states `σ` that may lose the snapshot to its own cursor. -/
structure Storing (σ : Type) where
  /-- Whether a question may be answered so in the first state, which the second follows. -/
  answers : σ → (q : CheckpointQuery) → Except Failure q.Reply → σ → Prop
  /-- The snapshot that is held. -/
  snapshot : σ → Except Failure (List StakerRecord)
  snapshot_of_read : ∀ {s s' rs}, answers s .readSnapshot (.ok rs) s' → snapshot s = .ok rs
  snapshot_asked : ∀ {s s' q reply}, answers s q reply s' →
    (Request.checkpoint q).writes = false → snapshot s' = snapshot s
  snapshot_of_commit : ∀ {s s' s'' rs h rs'}, SnapshotForm.Storable rs →
    answers s (.writeSnapshot rs) (.ok ()) s' → answers s' (.writeCursor h) (.ok ()) s'' →
    snapshot s'' = .ok rs' → rs' = rs ∨ rs' = []
  fatal : ∀ {s s' q failure}, answers s q (.error failure) s' → failure.isTransient = false

/-- A question that does not write takes nothing. -/
theorem Exchange.taken_of_asked {q : CheckpointQuery} {reply : Except Failure q.Reply}
    (asked : (Request.checkpoint q).writes = false) :
    (Exchange.mk (.checkpoint q) reply).takenSnapshot? = none := by
  cases q with
  | writeSnapshot rs => cases asked
  | _ => cases reply <;> rfl

/-- A kind of checkpoint that loses no snapshot. -/
structure Holding (σ : Type) extends Storing σ where
  snapshot_of_write : ∀ {s s' rs}, SnapshotForm.Storable rs →
    answers s (.writeSnapshot rs) (.ok ()) s' → snapshot s' = .ok rs
  snapshot_stays : ∀ {s s' q reply}, answers s q reply s' →
    (Exchange.mk (.checkpoint q) reply).takenSnapshot? = none → snapshot s' = snapshot s
  snapshot_asked := fun may asked => snapshot_stays may (Exchange.taken_of_asked asked)
  snapshot_of_commit := fun storable saved marked held =>
    .inl (Except.ok.inj (held.symm.trans
      ((snapshot_stays marked rfl).trans (snapshot_of_write storable saved))))

/-- A kind of checkpoint that loses neither half. -/
structure Keeping (σ : Type) extends Holding σ where
  /-- The cursor that is held. -/
  cursor : σ → Except Failure UInt64
  cursor_of_read : ∀ {s s' h}, answers s .readCursor (.ok h) s' → cursor s = .ok h
  cursor_of_write : ∀ {s s' h}, answers s (.writeCursor h) (.ok ()) s' → cursor s' = .ok h
  cursor_stays : ∀ {s s' q reply}, answers s q reply s' →
    (Exchange.mk (.checkpoint q) reply).takenCursor? = none → cursor s' = cursor s

namespace Storing

variable {σ : Type} (k : Storing σ)

/-- The steps of the checkpoint: only its own exchanges change it. -/
def goes : Surroundings σ
  | s, ⟨.checkpoint q, reply⟩, s' => k.answers s q reply s'
  | s, _, s' => s' = s

/-- An exchange that does not write the checkpoint leaves `k.snapshot` as it is. -/
theorem snapshot_goes_asked {s s' : σ} {x : Exchange} (h : k.goes s x s')
    (asked : x.request.writes = false) : k.snapshot s' = k.snapshot s := by
  obtain ⟨request, reply⟩ := x
  cases request with
  | checkpoint q => exact k.snapshot_asked h asked
  | _ => exact congrArg k.snapshot h

/-- Whatever a checkpoint is asked, it never fails in a way that may pass. -/
theorem fatal_through {s s' : σ} {t : List Exchange} (through : k.goes.Through s t s')
    (q : CheckpointQuery) (failure : Failure) (member : ⟨.checkpoint q, .error failure⟩ ∈ t) :
    failure.isTransient = false := by
  induction through with
  | here s => cases member
  | step first _ ih =>
    rcases List.mem_cons.mp member with rfl | later
    · exact k.fatal first
    · exact ih later

/-- The steps of the checkpoint, with the account so far beside it. What the other
    partners may answer is left to `admits`. -/
def around (admits : Chronicle → Exchange → Prop) : Surroundings (Chronicle × σ) :=
  (Chronicle.follows admits).beside k.goes

/-- Exchanges that the checkpoint goes through, `k.goes.Through s t s'`, are gone through with
    their account beside it, if the others admit each of them. -/
theorem through_around {admits : Chronicle → Exchange → Prop} {s s' : σ} {t : List Exchange}
    (through : k.goes.Through s t s')
    (admitted : ∀ pre x post, t = pre ++ x :: post → admits (Chronicle.of pre) x) :
    (k.around admits).Through (.blank, s) t (.of t, s') :=
  (Chronicle.through_follows admitted).beside through

end Storing

/-- An exchange in which no snapshot is taken leaves `k.snapshot` as it is. -/
theorem Holding.snapshot_goes {σ : Type} (k : Holding σ) {s s' : σ} {x : Exchange}
    (h : k.goes s x s') (none : x.takenSnapshot? = none) : k.snapshot s' = k.snapshot s := by
  obtain ⟨request, reply⟩ := x
  cases request with
  | checkpoint q => exact k.snapshot_stays h none
  | _ => exact congrArg k.snapshot h

namespace Keeping

variable {σ : Type} (k : Keeping σ)

/-- An exchange in which no cursor is taken leaves `k.cursor` as it is. -/
theorem cursor_goes {s s' : σ} {x : Exchange} (h : k.goes s x s')
    (none : x.takenCursor? = none) : k.cursor s' = k.cursor s := by
  obtain ⟨request, reply⟩ := x
  cases request with
  | checkpoint q => exact k.cursor_stays h none
  | _ => exact congrArg k.cursor h

/-- An exchange without an effect changes neither the effects nor what is held. -/
theorem around_quiet {admits : Chronicle → Exchange → Prop} {g g' : Chronicle × σ}
    {x : Exchange} (step : k.around admits g x g') (quiet : g.1.effectOf x = none) :
    g'.1.effects = g.1.effects ∧ k.cursor g'.2 = k.cursor g.2 ∧
      k.snapshot g'.2 = k.snapshot g.2 := by
  obtain ⟨⟨-, account⟩, goes⟩ := step
  obtain ⟨cursor, snapshot⟩ := Exchange.taken_of_quiet quiet
  refine ⟨?_, k.cursor_goes goes cursor, k.snapshot_goes goes snapshot⟩
  rw [account, Chronicle.effects_after, quiet]
  exact List.append_nil _

end Keeping

/-! ## §3. The checkpoint in memory -/

namespace VolatileCheckpoint

theorem answer_writeCursor (h : UInt64) (c : VolatileCheckpoint) :
    c.answer (.writeCursor h) =
      if c.refusesCursors then (.error (.storage .cursorRefused), c)
      else (.ok (), { c with cursor := some h, writes := c.writes ++ [.cursor h] }) := rfl

theorem answer_writeSnapshot (rs : List StakerRecord) (c : VolatileCheckpoint) :
    c.answer (.writeSnapshot rs) =
      if c.refusesSnapshots then (.error (.storage .snapshotRefused), c)
      else (.ok (), { c with snapshot := rs, writes := c.writes ++ [.snapshot rs.length] }) := rfl

/-- What the checkpoint in memory refuses is a failure of its own (`OwnFailure`). -/
theorem own_failure {c c' : VolatileCheckpoint} {q : CheckpointQuery} {failure : Failure}
    (answered : (.error failure, c') = c.answer q) : SnapshotForm.OwnFailure failure := by
  cases q with
  | readCursor => cases answered
  | readSnapshot => cases answered
  | writeCursor h =>
    rw [answer_writeCursor] at answered
    split at answered <;> cases answered
    exact .storage _
  | writeSnapshot rs =>
    rw [answer_writeSnapshot] at answered
    split at answered <;> cases answered
    exact .storage _

end VolatileCheckpoint

/-- The checkpoint in memory, any of whose writes and reads may be refused. -/
def Keeping.volatile : Keeping VolatileCheckpoint where
  answers c q reply c' :=
    (reply, c') = c.answer q ∨ ((∃ fault, reply = .error (.storage fault)) ∧ c' = c)
  cursor c := .ok (c.cursor.getD 0)
  snapshot c := .ok c.snapshot
  cursor_of_read := by
    intro c c' h may
    rcases may with answered | ⟨⟨fault, refused⟩, -⟩
    · cases answered
      rfl
    · cases refused
  snapshot_of_read := by
    intro c c' rs may
    rcases may with answered | ⟨⟨fault, refused⟩, -⟩
    · cases answered
      rfl
    · cases refused
  cursor_of_write := by
    intro c c' h may
    rcases may with answered | ⟨⟨fault, refused⟩, -⟩
    · rw [VolatileCheckpoint.answer_writeCursor] at answered
      split at answered <;> cases answered
      rfl
    · cases refused
  snapshot_of_write := by
    intro c c' rs _ may
    rcases may with answered | ⟨⟨fault, refused⟩, -⟩
    · rw [VolatileCheckpoint.answer_writeSnapshot] at answered
      split at answered <;> cases answered
      rfl
    · cases refused
  cursor_stays := by
    intro c c' q reply may none
    rcases may with answered | ⟨-, rfl⟩
    · cases q with
      | writeCursor h =>
        rw [VolatileCheckpoint.answer_writeCursor] at answered
        -- a cursor that is not taken was refused, and then nothing changed
        split at answered <;> cases answered
        · rfl
        · cases none
      | writeSnapshot rs =>
        rw [VolatileCheckpoint.answer_writeSnapshot] at answered
        split at answered <;> cases answered <;> rfl
      | _ =>
        cases answered
        rfl
    · rfl
  snapshot_stays := by
    intro c c' q reply may none
    rcases may with answered | ⟨-, rfl⟩
    · cases q with
      | writeSnapshot rs =>
        rw [VolatileCheckpoint.answer_writeSnapshot] at answered
        -- so with a snapshot
        split at answered <;> cases answered
        · rfl
        · cases none
      | writeCursor h =>
        rw [VolatileCheckpoint.answer_writeCursor] at answered
        split at answered <;> cases answered <;> rfl
      | _ =>
        cases answered
        rfl
    · rfl
  fatal := by
    intro c c' q failure may
    rcases may with answered | ⟨⟨fault, refused⟩, -⟩
    · exact (VolatileCheckpoint.own_failure answered).fatal
    · cases refused
      rfl

end StakeRelay
