/-
  StakeRelay.Chain.Simulated — chains in memory.

  The simulated source has a head, logs by block and a staker registry. Each of its
  answers can be made to fail a number of times, and its head can be made to grow with
  every reading. The simulated destination remembers what it accepted and can be made to
  refuse. Both stand behind rehearsals of the relay without a network.
-/

import StakeRelay.Deposit.Event
import StakeRelay.Dialogue

namespace StakeRelay

/-! ## §1. The source -/

/-- A source chain in memory. -/
structure SimulatedSource where
  /-- The height of the newest block. -/
  head : UInt64
  /-- Whether the head grows by one block with every reading. -/
  growing : Bool
  /-- How many of the next readings of the head fail. -/
  headOutages : Nat
  /-- How many of the next log queries fail. -/
  logOutages : Nat
  /-- How many of the next readings of the registry's size fail. -/
  sizeOutages : Nat
  /-- The logs, the oldest first. -/
  logs : List RawLog
  /-- The registry. -/
  registry : List (Address × Amount)
  /-- The indices that the registry refuses. -/
  refusedIndices : List UInt64
  /-- How often the head was read. -/
  headReadings : Nat
  /-- The first block of every log query, the oldest first. -/
  logQueries : List UInt64
  deriving Repr, DecidableEq

namespace SimulatedSource

/-- A chain with the given head and nothing else. -/
def withHead (head : UInt64) : SimulatedSource :=
  ⟨head, false, 0, 0, 0, [], [], [], 0, []⟩

/-- The chain with one more log. -/
def push (s : SimulatedSource) (log : RawLog) : SimulatedSource :=
  { s with logs := s.logs ++ [log] }

/-- The chain with one more entry at the end of its registry. -/
def register (s : SimulatedSource) (staker : Address) (balance : Amount) : SimulatedSource :=
  { s with registry := s.registry ++ [(staker, balance)] }

/-- The chain without the registry's entries for a staker. -/
def unregister (s : SimulatedSource) (staker : Address) : SimulatedSource :=
  { s with registry := s.registry.filter fun e => e.1 ≠ staker }

/-- The logs that a filter selects: block by block, within a block in the order in which
    they were pushed. A filter whose ends are crossed selects none. The contract plays no
    part. -/
def select (s : SimulatedSource) (filter : LogFilter) : List RawLog :=
  (s.logs.filter fun log =>
    filter.first ≤ log.block && log.block ≤ filter.last &&
      log.topics.head? = some filter.topic).mergeSort fun a b => decide (a.block ≤ b.block)

/-- The answer to a question, and the chain after it. -/
def answer : (q : SourceQuery) → SimulatedSource → Except Failure q.Reply × SimulatedSource
  | .head, s =>
    let s := { s with headReadings := s.headReadings + 1 }
    if 0 < s.headOutages then
      (.error (.network .simulatedHead), { s with headOutages := s.headOutages - 1 })
    else (.ok s.head, if s.growing then { s with head := s.head + 1 } else s)
  | .logs filter, s =>
    let s := { s with logQueries := s.logQueries ++ [filter.first] }
    if 0 < s.logOutages then
      (.error (.network .simulatedLogs), { s with logOutages := s.logOutages - 1 })
    else (.ok (s.select filter), s)
  | .registrySize, s =>
    if 0 < s.sizeOutages then
      (.error (.network .simulatedRegistry), { s with sizeOutages := s.sizeOutages - 1 })
    else (.ok (UInt64.ofNat s.registry.length), s)
  | .stakerAt index, s =>
    if index ∈ s.refusedIndices then (.error (.network (.simulatedRefusal index)), s)
    else
      match s.registry[index.toNat]? with
      | some entry => (.ok entry.1, s)
      | none => (.error (.network (.simulatedIndex index)), s)
  | .stakerInfo staker, s =>
    match s.registry.find? fun e => e.1 = staker with
    | some entry => (.ok entry.2, s)
    | none => (.error (.network (.simulatedStaker staker)), s)

end SimulatedSource

/-! ## §2. The destination -/

/-- A destination chain in memory. -/
structure SimulatedDestination where
  /-- The accepted updates, the oldest first. -/
  accepted : List Update
  /-- How many of the next updates are refused. -/
  refusals : Nat
  deriving Repr, DecidableEq

namespace SimulatedDestination

/-- A destination that accepted nothing yet and refuses nothing. -/
def empty : SimulatedDestination := ⟨[], 0⟩

/-- The answer to an update, and the destination after it. -/
def answer (update : Update) (d : SimulatedDestination) :
    Except Failure Unit × SimulatedDestination :=
  if 0 < d.refusals then
    (.error (.submission (.simulatedRefusal update.call)), { d with refusals := d.refusals - 1 })
  else (.ok (), { d with accepted := d.accepted ++ [update] })

end SimulatedDestination

end StakeRelay
