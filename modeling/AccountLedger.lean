import AccountLedger.Account
import AccountLedger.Address
import AccountLedger.Amount
import AccountLedger.Bytes
import AccountLedger.Clock
import AccountLedger.Contract
import AccountLedger.Digest.Sha256
import AccountLedger.Document.Contract
import AccountLedger.Document.Ledger
import AccountLedger.Document.Policy
import AccountLedger.Document.Scenario
import AccountLedger.Document.Sizing
import AccountLedger.Document.Source
import AccountLedger.Engine.Assets
import AccountLedger.Engine.Outcome
import AccountLedger.Engine.Run
import AccountLedger.Engine.Stake
import AccountLedger.Engine.Steps
import AccountLedger.Engine.Transfers
import AccountLedger.Engine.Witnesses
import AccountLedger.Filter.BitSet
import AccountLedger.Filter.Bloom
import AccountLedger.Filter.Generations
import AccountLedger.Filter.Sizing
import AccountLedger.Genesis
import AccountLedger.Json.Parser
import AccountLedger.Json.Printer
import AccountLedger.Json.Reader
import AccountLedger.Json.Value
import AccountLedger.Ledger.Basic
import AccountLedger.Ledger.Canonical
import AccountLedger.Ledger.Check
import AccountLedger.Ledger.Overlay
import AccountLedger.Ledger.Update
import AccountLedger.Main
import AccountLedger.Number.Binary
import AccountLedger.Number.Logarithm
import AccountLedger.Number.Shortest
import AccountLedger.Policy
import AccountLedger.Processor
import AccountLedger.Proofs.Admission
import AccountLedger.Proofs.Agreement
import AccountLedger.Proofs.Amount
import AccountLedger.Proofs.AssetSupply
import AccountLedger.Proofs.Authority
import AccountLedger.Proofs.Balances
import AccountLedger.Proofs.Bandwidth
import AccountLedger.Proofs.CanonicalText
import AccountLedger.Proofs.Conservation
import AccountLedger.Proofs.Consistency
import AccountLedger.Proofs.Debits
import AccountLedger.Proofs.Documents
import AccountLedger.Proofs.Duplicates
import AccountLedger.Proofs.Effect
import AccountLedger.Proofs.Examination
import AccountLedger.Proofs.Execution
import AccountLedger.Proofs.History
import AccountLedger.Proofs.Holdings
import AccountLedger.Proofs.Independence
import AccountLedger.Proofs.Invariants
import AccountLedger.Proofs.JsonText
import AccountLedger.Proofs.Lockup
import AccountLedger.Proofs.Messages
import AccountLedger.Proofs.Movement
import AccountLedger.Proofs.Overlay
import AccountLedger.Proofs.PackedFilter
import AccountLedger.Proofs.Postings
import AccountLedger.Proofs.Progress
import AccountLedger.Proofs.RecentKeys
import AccountLedger.Proofs.Records
import AccountLedger.Proofs.Replay
import AccountLedger.Proofs.SalePrice
import AccountLedger.Proofs.Settlement
import AccountLedger.Proofs.Solvency
import AccountLedger.Proofs.Soundness
import AccountLedger.Proofs.Staging
import AccountLedger.Proofs.Stakes
import AccountLedger.Proofs.Tally
import AccountLedger.Proofs.Tokens
import AccountLedger.Proofs.Totals
import AccountLedger.Proofs.TransferFee
import AccountLedger.Proofs.UnknownFields
import AccountLedger.Proofs.Votes
import AccountLedger.Proofs.VotingPower
import AccountLedger.Proofs.WireForm
import AccountLedger.Proofs.WirePath
import AccountLedger.Proofs.Withdrawals
import AccountLedger.Proofs.WitnessFlags
import AccountLedger.Registry
import AccountLedger.Requirement
import AccountLedger.Scenario
import AccountLedger.Settings
import AccountLedger.SortedMap
import AccountLedger.Suite
import AccountLedger.Text.Decimal
import AccountLedger.Text.Hex
import AccountLedger.Text.Quoted
import AccountLedger.Text.Unicode
import AccountLedger.Text.Utf8
import AccountLedger.Toml.Moment
import AccountLedger.Toml.Parser
import AccountLedger.Toml.Source
import AccountLedger.Toml.Value
import AccountLedger.Wire.Message
import AccountLedger.Wire.Payload
import AccountLedger.Wire.Record
import AccountLedger.Wire.Transaction
import AccountLedger.Wire.Varint
