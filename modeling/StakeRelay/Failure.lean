/-
  StakeRelay.Failure — what can go wrong, and how it is worded.

  A failure belongs to one of seven classes and carries its cause. The class decides
  what a follower does about it: a network failure may pass and is tried again, every
  other failure ends the run. The wording of every cause stands in this module.

  Causes named `reported` hold a text that another party supplied.
-/

import StakeRelay.Follower.Phase
import StakeRelay.Rlp.Item
import StakeRelay.Text.Decimal
import StakeRelay.Text.Quoted
import StakeRelay.Account.Basic

namespace StakeRelay

/-! ## §1. Causes -/

/-- Why a chain could not be reached. -/
inductive NetworkFault
  /-- The node did not give its head. -/
  | head
  /-- The node did not answer a log query. -/
  | logs (first last : UInt64)
  /-- The node did not answer a contract call. -/
  | call (function : String)
  /-- The simulated chain withholds its head. -/
  | simulatedHead
  /-- The simulated chain withholds its logs. -/
  | simulatedLogs
  /-- The simulated chain withholds the size of its registry. -/
  | simulatedRegistry
  /-- The simulated registry refuses an index. -/
  | simulatedRefusal (index : UInt64)
  /-- The simulated registry ends before an index. -/
  | simulatedIndex (index : UInt64)
  /-- The simulated registry does not know an address. -/
  | simulatedStaker (staker : Address)
  | reported (text : String)
  deriving Repr, DecidableEq

/-- Why bytes or a text do not mean what they should. -/
inductive DecodeFault
  | hex (fault : Hex.Fault)
  /-- An address has another number of bytes than twenty. -/
  | addressSize (size : Nat)
  /-- An account key has another number of bytes than 32. -/
  | accountSize (size : Nat)
  /-- A word does not start with twelve zero bytes. -/
  | unpaddedWord (word : Word)
  /-- A word has another number of bytes than 32. -/
  | wordSize (size : Nat)
  /-- A value needs more than 128 bits. -/
  | beyond128 (value : Nat)
  /-- A value needs more than 64 bits. -/
  | beyond64 (value : Nat)
  /-- A deposit log has fewer than two topics. -/
  | noStakerTopic
  /-- A deposit log has fewer than 64 bytes of data. -/
  | shortDeposit (size : Nat)
  /-- A log of a block is broken. -/
  | inLog (height : UInt64) (position : Nat) (fault : DecodeFault)
  /-- A stored snapshot is no list. -/
  | snapshotForm
  | rlp (fault : Rlp.Fault)
  /-- A stored activity flag is neither zero nor one. -/
  | activityFlag (value : Nat)
  /-- A stored balance has more than sixteen bytes. -/
  | wideBalance (size : Nat)
  /-- A stored account key is not the key of the stored address. -/
  | foreignIdentity (identity : AccountId) (workBase : Address)
  /-- A stored cursor is no height. -/
  | cursorText (text path : String) (fault : Decimal.Fault)
  /-- The result of a contract call is too short. -/
  | callResult (function : String)
  | reported (text : String)
  deriving Repr, DecidableEq

/-- Why an update was not accepted. -/
inductive SubmissionFault
  /-- The simulated destination refuses a call. -/
  | simulatedRefusal (call : String)
  /-- The endpoint did not answer. -/
  | noAnswer
  /-- The endpoint's answer is no response. -/
  | unreadableAnswer
  /-- The endpoint refuses and gives no reason. -/
  | unexplained
  | reported (text : String)
  deriving Repr, DecidableEq

/-- Why the file system refuses. -/
inductive FileFault
  | missing
  | isDirectory
  | notDirectory
  | exists
  | notEmpty
  /-- A name, or the path as a whole, has too many bytes. -/
  | nameTooLong
  /-- The path holds the character zero, at which a path ends. -/
  | zeroInPath
  deriving Repr, DecidableEq

/-- Why the checkpoint could not be read or written. -/
inductive StorageFault
  /-- A file could not be read. -/
  | read (path : String) (fault : FileFault)
  /-- The directory of a file could not be made. -/
  | makeDirectory (path : String) (fault : FileFault)
  /-- A file could not be written. -/
  | write (path : String) (fault : FileFault)
  /-- A written file could not take the place of another. -/
  | move (source target : String) (fault : FileFault)
  /-- The volatile checkpoint refuses cursors. -/
  | cursorRefused
  /-- The volatile checkpoint refuses snapshots. -/
  | snapshotRefused
  | reported (text : String)
  deriving Repr, DecidableEq

/-- Why the settings cannot be used. -/
inductive ConfigFault
  /-- A schedule has epochs of no blocks. -/
  | scheduleLength
  /-- A registry walk does not move. -/
  | walkStride
  /-- The setting for the epoch length is zero. -/
  | epochLength
  /-- The setting for the registry stride is zero. -/
  | registryStride
  /-- The setting for the retry limit is zero. -/
  | retryLimit
  /-- The setting for the event signature is blank. -/
  | eventSignature
  /-- The setting for an endpoint is empty. -/
  | endpoints
  /-- The setting for the contract is blank. -/
  | contractUnset
  /-- The setting for the contract is no address. -/
  | contract (text : String) (fault : DecodeFault)
  /-- The setting for the source endpoint is no absolute URL. -/
  | sourceUrl (url : String)
  | reported (text : String)
  deriving Repr, DecidableEq

/-- What a follower was asked for in the wrong phase. -/
inductive PhaseFault
  /-- A phase does not lead to another. -/
  | transition (source target : Phase)
  /-- A stopped follower is asked to run. -/
  | alreadyStopped
  | reported (text : String)
  deriving Repr, DecidableEq

/-- What can go wrong. -/
inductive Failure
  /-- A chain could not be reached. The only class that may pass by itself. -/
  | network (fault : NetworkFault)
  /-- A log, a response or a stored record is malformed. -/
  | decode (fault : DecodeFault)
  /-- The destination did not accept an update. -/
  | submission (fault : SubmissionFault)
  /-- The checkpoint could not be read or written. -/
  | storage (fault : StorageFault)
  /-- The settings contradict themselves. -/
  | config (fault : ConfigFault)
  /-- A phase does not allow what was asked. -/
  | invalidState (fault : PhaseFault)
  /-- The retries for one height are used up. -/
  | retriesExceeded (height : UInt64) (attempts : UInt32)
  deriving Repr, DecidableEq

/-! ## §2. Wording of the causes -/

/-- The wording of a hexadecimal fault. -/
def Hex.Fault.text : Hex.Fault → String
  | .oddLength => "Odd number of digits"
  | .notDigit byte position =>
    let shown := Text.quoteChar (Char.ofNat byte.toNat)
    s!"Invalid character {shown} at position {position}"

/-- The wording of a network fault. -/
def NetworkFault.text : NetworkFault → String
  | .head => "Failed to get latest block"
  | .logs first last => s!"Log query for blocks {first}..={last} failed"
  | .call function => s!"{function} call failed"
  | .simulatedHead => "mock: head unavailable"
  | .simulatedLogs => "mock: log query failed"
  | .simulatedRegistry => "mock: registry unavailable"
  | .simulatedRefusal index => s!"mock: stakers({index}) reverted"
  | .simulatedIndex index => s!"mock: index {index} out of range"
  | .simulatedStaker staker => s!"mock: unknown staker {staker.text}"
  | .reported text => text

/-- The wording of a decoding fault. -/
def DecodeFault.text : DecodeFault → String
  | .hex fault => fault.text
  | .addressSize size => s!"Address must be 20 bytes, got {size}"
  | .accountSize size => s!"AccountId must be 32 bytes, got {size}"
  | .unpaddedWord word => s!"Word {word.text} is not a left-padded address"
  | .wordSize size => s!"ABI word must be 32 bytes, got {size}"
  | .beyond128 value => s!"Value {value} overflows u128"
  | .beyond64 value => s!"Value {value} overflows u64"
  | .noStakerTopic => "Deposit log has no staker topic"
  | .shortDeposit size => s!"Deposit data is {size} bytes, expected 64"
  | .inLog height position fault =>
    s!"Block {height} log {position}: Decode error: {fault.text}"
  | .snapshotForm => "Snapshot is not an RLP list"
  | .rlp fault => s!"RLP decode failed: {fault.text}"
  | .activityFlag value => s!"Invalid is_active flag {value}"
  | .wideBalance size => s!"Locked balance of {size} bytes overflows u128"
  | .foreignIdentity identity workBase =>
    s!"Staker identity {identity.text} does not match work base {workBase.text}"
  | .cursorText text path fault =>
    let shown := Text.quote text
    s!"Invalid block height {shown} in {path}: {fault.text}"
  | .callResult function => s!"Failed to decode {function} output"
  | .reported text => text

/-- The wording of a submission fault. -/
def SubmissionFault.text : SubmissionFault → String
  | .simulatedRefusal call => s!"mock: {call} rejected"
  | .noAnswer => "HTTP error"
  | .unreadableAnswer => "Failed to parse response"
  | .unexplained => "Unknown error"
  | .reported text => text

/-- The wording of a file fault. -/
def FileFault.text : FileFault → String
  | .missing => "No such file or directory (os error 2)"
  | .isDirectory => "Is a directory (os error 21)"
  | .notDirectory => "Not a directory (os error 20)"
  | .exists => "File exists (os error 17)"
  | .notEmpty => "Directory not empty (os error 39)"
  | .nameTooLong => "File name too long (os error 36)"
  | .zeroInPath => "file name contained an unexpected NUL byte"

/-- The wording of a storage fault. -/
def StorageFault.text : StorageFault → String
  | .read path fault => s!"Failed to read {path}: {fault.text}"
  | .makeDirectory path fault => s!"Failed to create directory {path}: {fault.text}"
  | .write path fault => s!"Failed to write {path}: {fault.text}"
  | .move source target fault => s!"Failed to move {source} to {target}: {fault.text}"
  | .cursorRefused => "Injected cursor write failure"
  | .snapshotRefused => "Injected snapshot write failure"
  | .reported text => text

/-- The wording of a settings fault. -/
def ConfigFault.text : ConfigFault → String
  | .scheduleLength => "Epoch length must be at least 1"
  | .walkStride => "Registry stride must be at least 1"
  | .epochLength => "epoch_length must be at least 1"
  | .registryStride => "registry_stride must be at least 1"
  | .retryLimit => "retry_limit must be at least 1"
  | .eventSignature => "event_signature is empty"
  | .endpoints => "RPC endpoints must be set"
  | .contractUnset => "contract_address must be set"
  | .contract text fault =>
    let shown := Text.quote text
    s!"Invalid contract_address {shown}: Decode error: {fault.text}"
  | .sourceUrl url => s!"Invalid source RPC url {url}"
  | .reported text => text

/-- The wording of a phase fault. -/
def PhaseFault.text : PhaseFault → String
  | .transition source target => s!"Invalid poller transition: {source.text} -> {target.text}"
  | .alreadyStopped => "Poller already stopped"
  | .reported text => text

/-! ## §3. Wording of the failures -/

namespace Failure

/-- Whether a follower may try the same height again. -/
def isTransient : Failure → Bool
  | .network _ => true
  | _ => false

/-- The class of a failure, as it is written in reports. -/
def kind : Failure → String
  | .network _ => "Network"
  | .decode _ => "Decode"
  | .submission _ => "Submission"
  | .storage _ => "Storage"
  | .config _ => "Config"
  | .invalidState _ => "InvalidState"
  | .retriesExceeded _ _ => "RetriesExceeded"

/-- The text of a failure without its class. -/
def detail : Failure → String
  | .network fault => fault.text
  | .decode fault => fault.text
  | .submission fault => fault.text
  | .storage fault => fault.text
  | .config fault => fault.text
  | .invalidState fault => fault.text
  | .retriesExceeded height attempts =>
    s!"Polling failed at block {height}: retries exceeded after {attempts} attempts"

/-- The message of a failure. -/
def message (failure : Failure) : String :=
  match failure with
  | .network _ => "Network error: " ++ failure.detail
  | .decode _ => "Decode error: " ++ failure.detail
  | .submission _ => "Submission error: " ++ failure.detail
  | .storage _ => "Storage error: " ++ failure.detail
  | .config _ => "Config error: " ++ failure.detail
  | .invalidState _ => "Invalid state: " ++ failure.detail
  | .retriesExceeded _ _ => failure.detail

/-- The class of a failure with its text as an argument, as a stopped program shows it. -/
def inspect (failure : Failure) : String :=
  match failure with
  | .retriesExceeded height attempts =>
    "RetriesExceeded \x7b height: " ++ toString height ++ ", attempts: " ++
      toString attempts ++ " \x7d"
  | _ =>
    let shown := Text.quote failure.detail
    s!"{failure.kind}({shown})"

end Failure

end StakeRelay
