/-
  StakeRelay.Staker.Record — one staking participant, as the destination chain is told.

  A record names its staker twice, by the source-chain address and by the
  destination-chain key made from it. `ofAddress` and `ofParts` are the ways to make a
  record, and both keep the two in step (`Consistent`).
-/

import StakeRelay.Account.Reading

namespace StakeRelay

/-- An amount of the staked currency, below 2^128. -/
abbrev Amount := Fin 0x1_0000_0000_0000_0000_0000_0000_0000_0000

/-- So that amounts can be written as numerals. -/
instance Amount.neZero :
    @NeZero Nat Zero.ofOfNat0 0x1_0000_0000_0000_0000_0000_0000_0000_0000 := ⟨by decide⟩

/-- The amount with this value. -/
def Amount.ofNat (n : Nat) : Except DecodeFault Amount :=
  if h : n < 0x1_0000_0000_0000_0000_0000_0000_0000_0000 then .ok ⟨n, h⟩ else .error (.beyond128 n)

/-- One staking participant. -/
structure StakerRecord where
  /-- The destination-chain key. -/
  identity : AccountId
  /-- The source-chain address, by which records are told apart. -/
  workBase : Address
  /-- Whether the staker was staking when last seen. -/
  isActive : Bool
  /-- The locked amount. -/
  lockedBalance : Amount
  /-- Kept for later use; zero in every new record. -/
  workCount : UInt32
  deriving Repr, DecidableEq

namespace StakerRecord

/-- The key is the one made from the address. -/
def Consistent (r : StakerRecord) : Prop :=
  r.identity = AccountId.ofAddress r.workBase

instance (r : StakerRecord) : Decidable r.Consistent :=
  inferInstanceAs (Decidable (r.identity = AccountId.ofAddress r.workBase))

/-- The record of a staker that is staking now. -/
def ofAddress (staker : Address) (balance : Amount) : StakerRecord where
  identity := AccountId.ofAddress staker
  workBase := staker
  isActive := true
  lockedBalance := balance
  workCount := 0

/-- The record with the given fields, if its key is the one made from its address. -/
def ofParts (identity : AccountId) (workBase : Address) (isActive : Bool)
    (balance : Amount) (workCount : UInt32) : Except Failure StakerRecord :=
  if identity = AccountId.ofAddress workBase then
    .ok ⟨identity, workBase, isActive, balance, workCount⟩
  else .error (.decode (.foreignIdentity identity workBase))

/-- The record of the same staker, no longer staking. -/
def stopped (r : StakerRecord) : StakerRecord := { r with isActive := false }

theorem consistent_ofAddress (staker : Address) (balance : Amount) :
    (ofAddress staker balance).Consistent := rfl

end StakerRecord

end StakeRelay
