/-
  StakeRelay.Deposit.Log — log entries of the source chain and queries for them.
-/

import StakeRelay.Account.Basic

namespace StakeRelay

/-- A log entry as the source chain gives it. -/
structure RawLog where
  /-- The block that holds the entry. -/
  block : UInt64
  /-- The topic of the event, then its indexed arguments. -/
  topics : List Word
  /-- The other arguments. -/
  data : Bytes
  deriving Repr, DecidableEq

/-- A query for the entries of one contract under one topic, in a range of blocks that
    holds both its ends. -/
structure LogFilter where
  contract : Address
  topic : Word
  first : UInt64
  last : UInt64
  deriving Repr, DecidableEq

/-- The query for one block. -/
def LogFilter.ofBlock (contract : Address) (topic : Word) (height : UInt64) : LogFilter :=
  ⟨contract, topic, height, height⟩

end StakeRelay
