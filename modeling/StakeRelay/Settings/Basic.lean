/-
  StakeRelay.Settings.Basic — what the operator of the relay can choose.

  Every setting has a standard value, so an empty document is a full set of settings.
  A document that gives a setting a value of another type, or a number outside its
  range, is refused as a whole. Keys that name no setting do not count.
-/

import StakeRelay.Deposit.Scanner
import StakeRelay.Follower.Basic
import StakeRelay.Toml.Reader

namespace StakeRelay

/-- The settings of the relay. -/
structure Settings where
  /-- Where the source chain's node is reached. -/
  sourceUrl : String
  /-- Where the destination chain's relay is reached. -/
  destinationUrl : String
  /-- The contract that keeps the registry and logs deposits. Blank: none. -/
  contractText : String
  /-- The signature of the deposit event. -/
  eventSignature : String
  /-- The first height to process when the checkpoint is not further. -/
  start : UInt64
  /-- How many blocks have to follow a height before it is processed. -/
  confirmations : UInt64
  /-- How many failures that may pass are borne at one height. -/
  retryLimit : UInt32
  /-- The pause between attempts, in milliseconds. -/
  interval : UInt64
  epochLength : UInt64
  /-- Every how many entries of the registry are read. -/
  registryStride : UInt64
  /-- The cursor file, if it is not at its usual place. -/
  cursorFile : Option String
  /-- The snapshot file, if it is not at its usual place. -/
  snapshotFile : Option String
  /-- How much is logged. -/
  logLevel : String
  deriving Repr, DecidableEq

/-- Why there are no settings. -/
inductive SettingsFault
  /-- The file cannot be read as a text. -/
  | unreadable
  /-- The text is no document, or a setting has a value of the wrong kind. -/
  | document
  deriving Repr, DecidableEq

namespace Settings

/-! ## §1. The standard values -/

/-- The settings of an empty document. -/
def standard : Settings where
  sourceUrl := "http://127.0.0.1:8545"
  destinationUrl := "http://127.0.0.1:9933"
  contractText := ""
  eventSignature := depositSignature
  start := 0
  confirmations := FollowerSettings.standard.confirmations
  retryLimit := FollowerSettings.standard.retryLimit
  interval := FollowerSettings.standard.interval
  epochLength := 1000
  registryStride := 1
  cursorFile := none
  snapshotFile := none
  logLevel := "info"

/-! ## §2. Settings from a document -/

/-- The value of a key, as `read` takes it, or the given one if the key is not there. -/
def valueOr {α : Type} (es : Toml.Entries) (key : String) (read : Toml.Item → Option α)
    (otherwise : α) : Option α :=
  match es.find? key with
  | none => some otherwise
  | some item => read item

/-- A text. -/
def text? : Toml.Item → Option String
  | .value (.string s) => some s
  | _ => none

/-- A number from zero up to but without `bound`. -/
def below? (bound : Nat) : Toml.Item → Option Nat
  | .value (.integer n) => if 0 ≤ n ∧ n < bound then some n.toNat else none
  | _ => none

/-- A number of 64 bits. -/
def number64? (item : Toml.Item) : Option UInt64 := (below? 0x1_0000_0000_0000_0000 item).map UInt64.ofNat

/-- A number of 32 bits. -/
def number32? (item : Toml.Item) : Option UInt32 := (below? 0x1_0000_0000 item).map UInt32.ofNat

/-- The settings in a document. -/
def ofEntries? (es : Toml.Entries) : Option Settings := do
  return {
    sourceUrl := ← valueOr es "source_rpc_url" text? standard.sourceUrl
    destinationUrl := ← valueOr es "destination_rpc_url" text? standard.destinationUrl
    contractText := ← valueOr es "contract_address" text? standard.contractText
    eventSignature := ← valueOr es "event_signature" text? standard.eventSignature
    start := ← valueOr es "start_block" number64? standard.start
    confirmations := ← valueOr es "block_confirmations" number64? standard.confirmations
    retryLimit := ← valueOr es "retry_limit" number32? standard.retryLimit
    interval := ← valueOr es "retry_interval_ms" number64? standard.interval
    epochLength := ← valueOr es "epoch_length" number64? standard.epochLength
    registryStride := ← valueOr es "registry_stride" number64? standard.registryStride
    cursorFile := ← valueOr es "cursor_file" (fun i => (text? i).map some) none
    snapshotFile := ← valueOr es "snapshot_file" (fun i => (text? i).map some) none
    logLevel := ← valueOr es "log_level" text? standard.logLevel }

/-- The settings in the content of a file; none if there is no such file. -/
def ofContent (content : Option Bytes) : Except SettingsFault Settings :=
  match content.bind Utf8.decode? with
  | none => .error .unreadable
  | some text =>
    match (Toml.read? text).bind ofEntries? with
    | none => .error .document
    | some settings => .ok settings

end Settings

end StakeRelay
