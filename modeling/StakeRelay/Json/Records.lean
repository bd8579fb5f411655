/-
  StakeRelay.Json.Records — records and addresses in JSON.

  An address and a key are strings, a balance is a bare integer of up to 39 digits. The
  fields of a record stand in one fixed order.
-/

import StakeRelay.Json.Reader
import StakeRelay.Staker.Record

namespace StakeRelay

/-- The value of an address. -/
def Address.toJson (a : Address) : Json := .string a.text

/-- The value of an account key. -/
def AccountId.toJson (k : AccountId) : Json := .string k.text

/-- The address in a value. -/
def Address.ofJson? : Json → Option Address
  | .string s => (Address.parseFault s).toOption
  | _ => none

/-- The value of a record. -/
def StakerRecord.toJson (r : StakerRecord) : Json :=
  .object [
    ("identity", r.identity.toJson),
    ("work_base", r.workBase.toJson),
    ("is_active", .bool r.isActive),
    ("locked_balance", .ofNat r.lockedBalance.val),
    ("work_count", .ofNat r.workCount.toNat)]

/-- The value of a list of records. -/
def recordsToJson (rs : List StakerRecord) : Json := .array (rs.map StakerRecord.toJson)

end StakeRelay
