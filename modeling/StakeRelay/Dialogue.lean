/-
  StakeRelay.Dialogue — what the relay asks of the world, and programs that ask.

  The relay talks to five partners: the source chain, the destination chain, the
  checkpoint, the stop signal and the clock. A `Request` is one question to one of
  them, and its `Reply` is the type of the answers. A `Dialogue` is a program that
  asks finitely many questions one after another, each depending on the answers so
  far, and then has a result.

  A dialogue leaves open who answers. `run` lets a state answer; `Path` follows
  one sequence of answers and may stop at any point, as a crash does.

  Main statements:
    * the monad laws (`bind_done`, `bind_assoc`);
    * `Path.append` and `Path.split` — sequences of answers compose;
    * `path_run` — what a state answers is a path to the result.
-/

import StakeRelay.Deposit.Log
import StakeRelay.Staker.Record

namespace StakeRelay

/-! ## §1. Requests -/

/-- A question to the source chain. -/
inductive SourceQuery
  /-- The height of the newest block. -/
  | head
  /-- The log entries that a filter selects. -/
  | logs (filter : LogFilter)
  /-- The number of entries of the staker registry. -/
  | registrySize
  /-- The staker at an index of the registry. -/
  | stakerAt (index : UInt64)
  /-- The amount that a staker has locked. -/
  | stakerInfo (staker : Address)
  deriving Repr, DecidableEq

/-- What the source chain answers if it does not fail. -/
abbrev SourceQuery.Reply : SourceQuery → Type
  | .head => UInt64
  | .logs _ => List RawLog
  | .registrySize => UInt64
  | .stakerAt _ => Address
  | .stakerInfo _ => Amount

/-- A question to the checkpoint, which holds the next height to process (the cursor)
    and the top that was committed last (the snapshot). -/
inductive CheckpointQuery
  | readCursor
  | writeCursor (height : UInt64)
  | readSnapshot
  | writeSnapshot (snapshot : List StakerRecord)
  deriving Repr, DecidableEq

/-- What the checkpoint answers if it does not fail. -/
abbrev CheckpointQuery.Reply : CheckpointQuery → Type
  | .readCursor => UInt64
  | .writeCursor _ => Unit
  | .readSnapshot => List StakerRecord
  | .writeSnapshot _ => Unit

/-- A call of the destination chain with the records that it carries. -/
structure Update where
  call : String
  payload : List StakerRecord
  deriving Repr, DecidableEq

/-- One question to one partner. -/
inductive Request
  | source (query : SourceQuery)
  | submit (update : Update)
  | checkpoint (query : CheckpointQuery)
  /-- Whether a stop is requested. -/
  | stopRequested
  /-- Let the given number of milliseconds pass, unless a stop is requested before. -/
  | wait (milliseconds : UInt64)
  deriving Repr, DecidableEq

/-- The type of the answers to a request. -/
abbrev Request.Reply : Request → Type
  | .source q => Except Failure q.Reply
  | .submit _ => Except Failure Unit
  | .checkpoint q => Except Failure q.Reply
  | .stopRequested => Bool
  | .wait _ => Unit

/-! ## §2. Dialogues -/

/-- A program that asks and then has a result. -/
inductive Dialogue (α : Type) : Type
  | done (result : α)
  | ask (request : Request) (next : request.Reply → Dialogue α)

namespace Dialogue

/-- Goes on with `f` where the first dialogue ends. -/
def bind {α β : Type} : Dialogue α → (α → Dialogue β) → Dialogue β
  | .done a, f => f a
  | .ask r next, f => .ask r fun reply => (next reply).bind f

instance : Monad Dialogue where
  pure := .done
  bind := Dialogue.bind

/-- The dialogue of one question. -/
def request (r : Request) : Dialogue r.Reply := .ask r .done

/-- Whether a stop is requested. -/
def stopRequested : Dialogue Bool := request .stopRequested

/-- Lets time pass. -/
def wait (milliseconds : UInt64) : Dialogue Unit := request (.wait milliseconds)

theorem bind_eq_bind {α β : Type} (d : Dialogue α) (f : α → Dialogue β) :
    (d >>= f) = d.bind f := rfl

@[simp] theorem bind_done {α β : Type} (a : α) (f : α → Dialogue β) :
    (Dialogue.done a).bind f = f a := rfl

@[simp] theorem bind_ask {α β : Type} (r : Request) (next : r.Reply → Dialogue α)
    (f : α → Dialogue β) :
    (Dialogue.ask r next).bind f = .ask r fun reply => (next reply).bind f := rfl

@[simp] theorem bind_done_right {α : Type} (d : Dialogue α) : d.bind .done = d := by
  induction d with
  | done a => rfl
  | ask r next ih => rw [bind_ask]; congr; funext reply; exact ih reply

theorem bind_assoc {α β γ : Type} (d : Dialogue α) (f : α → Dialogue β) (g : β → Dialogue γ) :
    (d.bind f).bind g = d.bind fun a => (f a).bind g := by
  induction d with
  | done a => rfl
  | ask r next ih => simp only [bind_ask, ih]

instance : LawfulMonad Dialogue :=
  LawfulMonad.mk' Dialogue (fun d => bind_done_right d) (fun _ _ => rfl) bind_assoc

end Dialogue

/-! ## §3. Dialogues that may fail -/

/-- A dialogue that ends in a result or a failure. -/
abbrev Attempt := ExceptT Failure Dialogue

namespace Attempt

/-- Asks the source chain. -/
def source (q : SourceQuery) : Attempt q.Reply :=
  ExceptT.mk (Dialogue.request (.source q))

/-- Asks the destination chain. -/
def submit (update : Update) : Attempt Unit :=
  ExceptT.mk (Dialogue.request (.submit update))

/-- Asks the checkpoint. -/
def checkpoint (q : CheckpointQuery) : Attempt q.Reply :=
  ExceptT.mk (Dialogue.request (.checkpoint q))

end Attempt

/-! ## §4. Answering -/

/-- A state that answers every request. -/
abbrev Answering (σ : Type) := (r : Request) → σ → r.Reply × σ

/-- The result of a dialogue that a state answers, and the state after it. -/
def Dialogue.run {α σ : Type} (answer : Answering σ) : Dialogue α → σ → α × σ
  | .done a, s => (a, s)
  | .ask r next, s => (next (answer r s).1).run answer (answer r s).2

/-- One question and its answer. -/
structure Exchange where
  request : Request
  reply : request.Reply

/-- `Path d t d'`: the dialogue `d` goes through the exchanges `t` and has `d'` left. -/
inductive Dialogue.Path {α : Type} : Dialogue α → List Exchange → Dialogue α → Prop
  | here (d : Dialogue α) : Path d [] d
  | step {r : Request} {next : r.Reply → Dialogue α} (reply : r.Reply) {t : List Exchange}
      {d : Dialogue α} (rest : Path (next reply) t d) :
      Path (.ask r next) (⟨r, reply⟩ :: t) d

namespace Dialogue

theorem Path.append {α : Type} {d e f : Dialogue α} {t u : List Exchange}
    (first : Path d t e) (second : Path e u f) : Path d (t ++ u) f := by
  induction first with
  | here d => exact second
  | step reply rest ih => exact .step reply (ih second)

theorem Path.split {α : Type} {d f : Dialogue α} {t u : List Exchange}
    (whole : Path d (t ++ u) f) : ∃ e, Path d t e ∧ Path e u f := by
  induction t generalizing d with
  | nil => exact ⟨d, .here d, whole⟩
  | cons x t ih =>
    cases whole with
    | step reply rest =>
      obtain ⟨e, h1, h2⟩ := ih rest
      exact ⟨e, .step reply h1, h2⟩

/-- The exchanges of a dialogue that a state answers. -/
def exchanges {α σ : Type} (answer : Answering σ) : Dialogue α → σ → List Exchange
  | .done _, _ => []
  | .ask r next, s =>
    ⟨r, (answer r s).1⟩ :: (next (answer r s).1).exchanges answer (answer r s).2

theorem path_run {α σ : Type} (answer : Answering σ) (d : Dialogue α) (s : σ) :
    Path d (d.exchanges answer s) (.done (d.run answer s).1) := by
  induction d generalizing s with
  | done a => exact .here _
  | ask r next ih => exact .step _ (ih _ _)

end Dialogue

end StakeRelay
