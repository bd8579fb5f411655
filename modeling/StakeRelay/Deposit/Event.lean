/-
  StakeRelay.Deposit.Event — deposits as typed events.

  A deposit log holds, by position,
    * topic 0, the hash of the event's signature,
    * topic 1, the staker, as an address in a word,
    * data 0..32, the amount, and data 32..64, the number of periods, as words.
  Further topics and data are not looked at. A value that needs more than 128 bits is
  refused, never cut.
-/

import StakeRelay.Deposit.Log
import StakeRelay.Staker.Record

namespace StakeRelay

/-! ## §1. Numbers in words -/

/-- The 64-bit number with this value. -/
def narrow64 (n : Nat) : Except DecodeFault UInt64 :=
  if n < 0x1_0000_0000_0000_0000 then .ok (UInt64.ofNat n) else .error (.beyond64 n)

/-- The amount in a word of exactly 32 bytes. -/
def Amount.ofWordBytes (bs : Bytes) : Except DecodeFault Amount :=
  if bs.length = 32 then Amount.ofNat (BigEndian.value bs) else .error (.wordSize bs.length)

/-- The word that holds a 64-bit number. -/
def Word.ofUInt64 (n : UInt64) : Bytes := BigEndian.padded 32 n.toNat

/-! ## §2. Deposits -/

/-- A deposit. -/
structure DepositEvent where
  staker : Address
  value : Amount
  periods : Amount
  deriving Repr, DecidableEq

namespace DepositEvent

/-- The staker's record after the deposit. -/
def toRecord (e : DepositEvent) : StakerRecord := StakerRecord.ofAddress e.staker e.value

/-- The fault of a log, or the deposit that it holds. -/
def ofLog (log : RawLog) : Except DecodeFault DepositEvent := do
  match log.topics with
  | _ :: stakerTopic :: _ =>
    if log.data.length < 64 then throw (.shortDeposit log.data.length)
    if (stakerTopic.bytes.take 12).all (· = 0) then
      let value ← Amount.ofWordBytes (log.data.take 32)
      let periods ← Amount.ofWordBytes ((log.data.drop 32).take 32)
      return ⟨Address.ofLowerBytes stakerTopic, value, periods⟩
    else throw (.unpaddedWord stakerTopic)
  | _ => throw .noStakerTopic

/-- The log that the staking contract writes for a deposit. -/
def toLog (topic : Word) (height : UInt64) (staker : Address) (value periods : UInt64) : RawLog where
  block := height
  topics := [topic, staker.toWord]
  data := Word.ofUInt64 value ++ Word.ofUInt64 periods

end DepositEvent

end StakeRelay
