/-
  StakeRelay.Deposit.Scanner — the deposits of one block.

  A block is scanned whole or not at all: its logs are decoded in order, and the first
  broken one fails the scan with the height and the log's position.
-/

import StakeRelay.Deposit.Event
import StakeRelay.Dialogue
import StakeRelay.Hash.Keccak
import StakeRelay.Text.Utf8

namespace StakeRelay

/-- The signature of the staking contract's deposit event. -/
def depositSignature : String := "Deposited(address,uint256,uint16)"

/-- The topic of the events with the given signature. -/
def topicOf (signature : String) : Word := Keccak.hash (Utf8.encode signature)

/-- Looks for the deposits of one contract. -/
structure Scanner where
  contract : Address
  topic : Word
  deriving Repr, DecidableEq

namespace Scanner

/-- The scanner for the events with the given signature. -/
def ofSignature (contract : Address) (signature : String) : Scanner :=
  ⟨contract, topicOf signature⟩

/-- The deposits of a block's logs, the first of which stands at `position`. -/
def decodeFrom (height : UInt64) (position : Nat) :
    List RawLog → Except Failure (List DepositEvent)
  | [] => .ok []
  | log :: rest =>
    match DepositEvent.ofLog log with
    | .error fault => .error (.decode (.inLog height position fault))
    | .ok event => (decodeFrom height (position + 1) rest).map (event :: ·)

/-- The deposits of a block. -/
def scan (s : Scanner) (height : UInt64) : Attempt (List DepositEvent) := do
  let logs ← Attempt.source (.logs (.ofBlock s.contract s.topic height))
  ExceptT.mk (.done (decodeFrom height 0 logs))

end Scanner

end StakeRelay
