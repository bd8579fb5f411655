/-
  StakeRelay.Chain.Node — the source chain behind a JSON-RPC node.

  Every question to the source chain is one remote call. Height and logs are asked for
  directly; the staker registry is a contract that is called at the newest block, with
  a four-byte selector and one word for the argument.

  A call that fails, or whose result has the wrong form, is a network failure. The result
  of a contract call is its first word: fewer than 32 bytes are a decoding failure, more
  are ignored. A number is never cut: the size of the registry has to fit 64 bits, an
  amount 128. An address is the lower twenty bytes of its word.

  Numbers, words and addresses may have blanks between their digits, the data of a log and
  the result of a contract call may not.
-/

import StakeRelay.Chain.Url
import StakeRelay.Deposit.Scanner
import StakeRelay.Json.Basic
import StakeRelay.Text.SpacedHex

namespace StakeRelay

/-! ## §1. Remote calls -/

/-- A remote call. -/
structure RpcCall where
  method : String
  params : Json
  deriving Repr

/-- What a remote call gives, if it does not fail. -/
abbrev RpcResult := Option Json

/-- The shortest hexadecimal text of a number. -/
def quantityText (n : Nat) : String := "0x" ++ String.ofList (Nat.toDigits 16 n)

namespace Node

/-- The function that gives the size of the registry. -/
def sizeFunction : String := "getStakersLength"

/-- The function that gives the staker at an index. -/
def stakerFunction : String := "stakers"

/-- The function that gives what a staker has locked. -/
def infoFunction : String := "stakerInfo"

/-- The first four bytes of the hash of a function's name and argument types. -/
def selector (name arguments : String) : Bytes :=
  (Keccak.hash (Utf8.encode (name ++ "(" ++ arguments ++ ")"))).bytes.take 4

/-- The data of a contract call. -/
def callData (name arguments : String) (argument : Bytes) : Bytes :=
  selector name arguments ++ argument

/-- A contract call at the newest block. -/
def contractCall (registry : Address) (data : Bytes) : RpcCall where
  method := "eth_call"
  params := .array [
    .object [("type", .string "0x00"), ("to", .string registry.text),
      ("data", .string (Hex.encode0x data))],
    .string "latest"]

/-- The remote call for a question. -/
def callFor (registry : Address) : SourceQuery → RpcCall
  | .head => ⟨"eth_blockNumber", .null⟩
  | .logs filter =>
    ⟨"eth_getLogs", .array [.object [
      ("address", .string filter.contract.text),
      ("fromBlock", .string (quantityText filter.first.toNat)),
      ("toBlock", .string (quantityText filter.last.toNat)),
      ("topics", .array [.string filter.topic.text])]]⟩
  | .registrySize => contractCall registry (callData sizeFunction "" [])
  | .stakerAt index =>
    contractCall registry (callData stakerFunction "uint256" (Word.ofUInt64 index))
  | .stakerInfo staker =>
    contractCall registry (callData infoFunction "address" staker.toWord.bytes)

/-! ## §2. The forms of results -/

/-- The text of a string behind an optional `0x`. -/
def unmarked? : Json → Option Bytes
  | .string s => some (Utf8.encodeChars (dropHexMark s.toList))
  | _ => none

/-- A number of at most that many bytes. -/
def quantity? (width : Nat) (v : Json) : Option Nat := (unmarked? v).bind (SpacedHex.number? width)

/-- A word. -/
def word? (v : Json) : Option Word :=
  ((unmarked? v).bind (SpacedHex.fixed? 32)).bind Word.ofBytes?

/-- An address. -/
def address? (v : Json) : Option Address :=
  ((unmarked? v).bind (SpacedHex.fixed? 20)).bind Address.ofBytes?

/-- Bytes of any number, without blanks between their digits, behind an optional `0x` or
    `0X`. -/
def bytes? : Json → Option Bytes
  | .string s =>
    let digits := match s.toList with
      | '0' :: 'X' :: rest => rest
      | cs => dropHexMark cs
    (Hex.decode (Utf8.encodeChars digits)).toOption
  | _ => none

/-- A field that may be missing or null, and otherwise has a form. -/
def optional {α : Type} (form : Json → Option α) (name : String) (fields : List (String × Json)) :
    Option (Option α) :=
  match Json.field? name fields with
  | none => some none
  | some .null => some none
  | some v => (form v).map some

/-- A field that has a form. -/
def required {α : Type} (form : Json → Option α) (name : String) (fields : List (String × Json)) :
    Option α :=
  (Json.field? name fields).bind form

/-- A truth value. -/
def flag? : Json → Option Bool
  | .bool b => some b
  | _ => none

/-- A string. -/
def string? : Json → Option String
  | .string s => some s
  | _ => none

/-- A list of words. -/
def words? : Json → Option (List Word)
  | .array vs => vs.mapM word?
  | _ => none

/-- The names of a log entry's fields, in the order in which a list gives their values. -/
def logFields : List String :=
  ["address", "topics", "data", "blockHash", "blockNumber", "transactionHash",
    "transactionIndex", "logIndex", "transactionLogIndex", "logType", "removed"]

/-- The log entry with these fields; nothing inside if the node has withdrawn it. -/
def logOfFields? (fields : List (String × Json)) : Option (Option RawLog) := do
  let _ ← required address? "address" fields
  let topics ← required words? "topics" fields
  let data ← required bytes? "data" fields
  let _ ← optional word? "blockHash" fields
  let block ← optional (quantity? 8) "blockNumber" fields
  let _ ← optional word? "transactionHash" fields
  let _ ← optional (quantity? 8) "transactionIndex" fields
  let _ ← optional (quantity? 32) "logIndex" fields
  let _ ← optional (quantity? 32) "transactionLogIndex" fields
  let _ ← optional string? "logType" fields
  let removed ← optional flag? "removed" fields
  if removed = some true then return none
  else return some ⟨UInt64.ofNat (block.getD 0), topics, data⟩

/-- A log entry, with its fields by name or as the list of all their values. -/
def log? : Json → Option (Option RawLog)
  | .object fields => logOfFields? fields
  | .array values =>
    if values.length = logFields.length then logOfFields? (logFields.zip values) else none
  | _ => none

/-- The log entries that the node has not withdrawn. -/
def logs? : Json → Option (List RawLog)
  | .array vs => (vs.mapM log?).map fun logs => logs.filterMap id
  | _ => none

/-! ## §3. Answers -/

/-- The first word of the result of a contract call. -/
def firstWord (function : String) (result : RpcResult) : Except Failure Word :=
  match result.bind bytes? with
  | none => .error (.network (.call function))
  | some bs =>
    match Word.ofBytes? (bs.take 32) with
    | some w => .ok w
    | none => .error (.decode (.callResult function))

/-- The answer to a question that the result of its remote call gives. -/
def answerOf : (q : SourceQuery) → RpcResult → Except Failure q.Reply
  | .head, result =>
    match result.bind (quantity? 8) with
    | some n => .ok (UInt64.ofNat n)
    | none => .error (.network .head)
  | .logs filter, result =>
    match result.bind logs? with
    | some logs => .ok logs
    | none => .error (.network (.logs filter.first filter.last))
  | .registrySize, result => do
    let w ← firstWord sizeFunction result
    (narrow64 (BigEndian.value w.bytes)).mapError .decode
  | .stakerAt _, result => do
    let w ← firstWord stakerFunction result
    return Address.ofLowerBytes w
  | .stakerInfo _, result => do
    let w ← firstWord infoFunction result
    (Amount.ofNat (BigEndian.value w.bytes)).mapError .decode

end Node

/-- The registry of a node that is reached at a URL. -/
def Node.connect (url : String) (registry : Address) : Except Failure Address :=
  if Url.isAbsolute url then .ok registry else .error (.config (.sourceUrl url))

/-! ## §4. A node that follows a script -/

/-- A node whose results are known beforehand. -/
structure ScriptedNode where
  /-- The registry contract. -/
  registry : Address
  /-- The results of the next calls. A call beyond them fails. -/
  results : List RpcResult
  /-- The calls so far, the oldest first. -/
  calls : List RpcCall

/-- The answer of a scripted node, and the node after it. -/
def ScriptedNode.answer (q : SourceQuery) (n : ScriptedNode) :
    Except Failure q.Reply × ScriptedNode :=
  (Node.answerOf q (n.results.head?.getD none),
    { n with results := n.results.tail, calls := n.calls ++ [Node.callFor n.registry q] })

/-- The answers around a scripted node. Nothing but the source can be asked. -/
def ScriptedNode.answering : Answering ScriptedNode
  | .source q, n => n.answer q
  | .submit _, n => (.error (.submission .noAnswer), n)
  | .checkpoint _, n => (.error (.storage .cursorRefused), n)
  | .stopRequested, n => (false, n)
  | .wait _, n => ((), n)

end StakeRelay
