/-
  StakeRelay.Chain.Seeded — a simulated source with something to relay.

  The registry holds 24 stakers, more than the destination is told about, and 64
  deposits lie at regular distances from the start. The head stands where the start is
  just confirmed and grows with every reading, so a follower never has to wait.
-/

import StakeRelay.Chain.Simulated
import StakeRelay.Number.Saturating

namespace StakeRelay.Seeded

/-- How many stakers are registered. -/
def stakers : Nat := 24

/-- How many deposits there are. -/
def deposits : Nat := 64

/-- How many blocks lie between two deposits. -/
def spacing : Nat := 37

/-- The address of a staker. -/
def staker (i : Nat) : Address :=
  ⟨0x5a :: List.replicate 18 0 ++ [UInt8.ofNat i], by simp⟩

/-- The locked amount of a staker. -/
def balance (i : Nat) : Amount :=
  ⟨(1000 + i * 7919 % 5000) % 0x1_0000_0000_0000_0000_0000_0000_0000_0000, Nat.mod_lt _ (by decide)⟩

/-- The log of a deposit. -/
def deposit (start : UInt64) (topic : Word) (n : Nat) : RawLog :=
  DepositEvent.toLog topic (Saturating.add start (UInt64.ofNat (n * spacing)))
    (staker (n % stakers)) (UInt64.ofNat (100 + n * 10)) (UInt64.ofNat (4 + n % 12))

/-- The seeded source. -/
def source (start confirmations : UInt64) (topic : Word) : SimulatedSource :=
  { SimulatedSource.withHead (Saturating.add start confirmations) with
    growing := true
    registry := (List.range stakers).map fun i => (staker i, balance i)
    logs := (List.range deposits).map (deposit start topic) }

end StakeRelay.Seeded
