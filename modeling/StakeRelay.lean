import StakeRelay.Account.Basic
import StakeRelay.Account.Reading
import StakeRelay.Chain.Node
import StakeRelay.Chain.RelayEndpoint
import StakeRelay.Chain.Seeded
import StakeRelay.Chain.Simulated
import StakeRelay.Chain.Url
import StakeRelay.Checkpoint.Durable
import StakeRelay.Checkpoint.FileSystem
import StakeRelay.Checkpoint.Path
import StakeRelay.Checkpoint.Places
import StakeRelay.Checkpoint.SnapshotForm
import StakeRelay.Checkpoint.Volatile
import StakeRelay.Deposit.Event
import StakeRelay.Deposit.Log
import StakeRelay.Deposit.OpenEpoch
import StakeRelay.Deposit.Scanner
import StakeRelay.Dialogue
import StakeRelay.Failure
import StakeRelay.Follower.Basic
import StakeRelay.Follower.Phase
import StakeRelay.Follower.StopSignal
import StakeRelay.Hash.Keccak
import StakeRelay.Hostname.Direction
import StakeRelay.Hostname.Domain
import StakeRelay.Hostname.Folding
import StakeRelay.Hostname.Joining
import StakeRelay.Hostname.Mark
import StakeRelay.Hostname.Permitted
import StakeRelay.Hostname.Punycode
import StakeRelay.Json.Basic
import StakeRelay.Json.Range
import StakeRelay.Json.Reader
import StakeRelay.Json.Records
import StakeRelay.Main
import StakeRelay.Number.BigEndian
import StakeRelay.Number.DoubleRange
import StakeRelay.Number.Saturating
import StakeRelay.Operator.Arguments
import StakeRelay.Operator.Ending
import StakeRelay.Operator.Help
import StakeRelay.Operator.Inspection
import StakeRelay.Operator.Options
import StakeRelay.Operator.Status
import StakeRelay.Operator.Table
import StakeRelay.Proofs.Checkpoint.CursorFile
import StakeRelay.Proofs.Checkpoint.DurableKeeping
import StakeRelay.Proofs.Checkpoint.FileSystem
import StakeRelay.Proofs.Checkpoint.Independence
import StakeRelay.Proofs.Checkpoint.Keeping
import StakeRelay.Proofs.Checkpoint.Path
import StakeRelay.Proofs.Checkpoint.SnapshotBytes
import StakeRelay.Proofs.Checkpoint.SnapshotForm
import StakeRelay.Proofs.Deposit.Epochs
import StakeRelay.Proofs.Deposit.Survival
import StakeRelay.Proofs.Dialogue.Chronicle
import StakeRelay.Proofs.Dialogue.Conduct
import StakeRelay.Proofs.Follower.Arrival
import StakeRelay.Proofs.Follower.Commits
import StakeRelay.Proofs.Follower.Counts
import StakeRelay.Proofs.Follower.Granted
import StakeRelay.Proofs.Follower.Heights
import StakeRelay.Proofs.Follower.Once
import StakeRelay.Proofs.Follower.Outline
import StakeRelay.Proofs.Follower.Restarts
import StakeRelay.Proofs.Follower.Rounds
import StakeRelay.Proofs.Follower.Session
import StakeRelay.Proofs.Follower.StillWorld
import StakeRelay.Proofs.Number.BigEndian
import StakeRelay.Proofs.Number.Words
import StakeRelay.Proofs.Rlp.Browsing
import StakeRelay.Proofs.Rlp.Item
import StakeRelay.Proofs.Staker.Departure
import StakeRelay.Proofs.Staker.Registry
import StakeRelay.Proofs.Text.Decimal
import StakeRelay.Proofs.Text.Utf8
import StakeRelay.Rehearsal.Performance
import StakeRelay.Rehearsal.Setup
import StakeRelay.Rehearsal.Step
import StakeRelay.Rehearsal.World
import StakeRelay.Rlp.Item
import StakeRelay.Schedule
import StakeRelay.Service.Arguments
import StakeRelay.Service.Launch
import StakeRelay.Service.Partners
import StakeRelay.Settings.Basic
import StakeRelay.Settings.Check
import StakeRelay.Staker.Departure
import StakeRelay.Staker.Ranking
import StakeRelay.Staker.Record
import StakeRelay.Staker.Registry
import StakeRelay.Text.Ascii
import StakeRelay.Text.Blank
import StakeRelay.Text.CodeTable
import StakeRelay.Text.CombiningClass
import StakeRelay.Text.Composed
import StakeRelay.Text.Composite
import StakeRelay.Text.Decimal
import StakeRelay.Text.Hex
import StakeRelay.Text.Quoted
import StakeRelay.Text.SpacedHex
import StakeRelay.Text.Split
import StakeRelay.Text.Unprintable
import StakeRelay.Text.Utf8
import StakeRelay.Toml.Document
import StakeRelay.Toml.Reader
import StakeRelay.Proofs.Follower.Progress
import StakeRelay.Proofs.Follower.Retries
import StakeRelay.Proofs.Follower.Refusal
import StakeRelay.Proofs.Follower.Departures
import StakeRelay.Proofs.Follower.Phases
import StakeRelay.Proofs.Checkpoint.Agreement
import StakeRelay.Proofs.Staker.Ranking
import StakeRelay.Proofs.Staker.Standing
import StakeRelay.Proofs.Follower.Waiting
import StakeRelay.Proofs.Follower.Watch
import StakeRelay.Proofs.Follower.Stopping
import StakeRelay.Proofs.Checkpoint.SnapshotGrammar
import StakeRelay.Proofs.Checkpoint.SnapshotTail
import StakeRelay.Proofs.Checkpoint.RefusedWrites
import StakeRelay.Proofs.Follower.Updates
import StakeRelay.Proofs.Staker.Places
import StakeRelay.Proofs.Checkpoint.SnapshotInput
import StakeRelay.Proofs.Follower.Endings
import StakeRelay.Proofs.Staker.Enumeration
import StakeRelay.Proofs.Deposit.Reading
import StakeRelay.Proofs.Deposit.Scanning
import StakeRelay.Proofs.Follower.BrokenBlock
import StakeRelay.Proofs.Checkpoint.CursorGrammar
import StakeRelay.Proofs.Deposit.History
import StakeRelay.Proofs.Text.Hex
import StakeRelay.Proofs.Text.Blank
import StakeRelay.Proofs.Account.Reading
import StakeRelay.Proofs.Chain.Registry
import StakeRelay.Proofs.Settings.Check
import StakeRelay.Proofs.Follower.Reports
import StakeRelay.Proofs.Operator.Status
