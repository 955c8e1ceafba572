import BridgeClient.Amount
import BridgeClient.Await.Awaiter
import BridgeClient.Await.Cancel
import BridgeClient.Await.LedgerDeposit
import BridgeClient.Await.Loop
import BridgeClient.Await.Timeline
import BridgeClient.Await.Watch
import BridgeClient.Bytes
import BridgeClient.Config.LogFormat
import BridgeClient.Config.Placeholder
import BridgeClient.Config.Settings
import BridgeClient.Config.Shown
import BridgeClient.Crypto.Ed25519
import BridgeClient.Crypto.Edwards
import BridgeClient.Crypto.Sha2
import BridgeClient.Document.Basic
import BridgeClient.Document.Record
import BridgeClient.Document.Untyped
import BridgeClient.Error
import BridgeClient.Explorer.History
import BridgeClient.Explorer.Transfer
import BridgeClient.Invocation.Context
import BridgeClient.Invocation.Executor
import BridgeClient.Invocation.Packing
import BridgeClient.Invocation.Session
import BridgeClient.Json.Basic
import BridgeClient.Json.Binary
import BridgeClient.Json.Reader
import BridgeClient.Json.Typed
import BridgeClient.Json.Writer
import BridgeClient.Ledger.CompactLength
import BridgeClient.Ledger.Derived
import BridgeClient.Ledger.Key
import BridgeClient.Ledger.Keypair
import BridgeClient.Ledger.Message
import BridgeClient.Ledger.Node
import BridgeClient.Ledger.TokenAccount
import BridgeClient.Ledger.Transaction
import BridgeClient.Metrics.Basic
import BridgeClient.Metrics.Page
import BridgeClient.Number.Binary64
import BridgeClient.Number.Numeral
import BridgeClient.Number.Radix
import BridgeClient.Number.Shortest
import BridgeClient.Program.Borsh
import BridgeClient.Program.Gravity
import BridgeClient.Program.Nebula
import BridgeClient.Program.Port
import BridgeClient.Program.Shown
import BridgeClient.Proofs.Amount.Detour
import BridgeClient.Proofs.Amount.ReadBack
import BridgeClient.Proofs.Amount.Rebasing
import BridgeClient.Proofs.Await.Cancellation
import BridgeClient.Proofs.Await.Ending
import BridgeClient.Proofs.Await.Growth
import BridgeClient.Proofs.Await.WindingDown
import BridgeClient.Proofs.Bytes
import BridgeClient.Proofs.Config.LedgerWatch
import BridgeClient.Proofs.Explorer.FirstDeposit
import BridgeClient.Proofs.History
import BridgeClient.Proofs.Invocation.Acceptance
import BridgeClient.Proofs.Invocation.Course
import BridgeClient.Proofs.Invocation.Delivery
import BridgeClient.Proofs.Invocation.Packing
import BridgeClient.Proofs.Invocation.Session
import BridgeClient.Proofs.Invocation.Signing
import BridgeClient.Proofs.Invocation.Single
import BridgeClient.Proofs.Invocation.Submission
import BridgeClient.Proofs.Invocation.Tally
import BridgeClient.Proofs.Invocation.Uniform
import BridgeClient.Proofs.Ledger.BumpSearch
import BridgeClient.Proofs.Ledger.CompactLength
import BridgeClient.Proofs.Ledger.Compile
import BridgeClient.Proofs.Ledger.Decoding
import BridgeClient.Proofs.Ledger.Derived
import BridgeClient.Proofs.Ledger.Header
import BridgeClient.Proofs.Ledger.Key
import BridgeClient.Proofs.Ledger.Placing
import BridgeClient.Proofs.Ledger.Roster
import BridgeClient.Proofs.Ledger.Transaction
import BridgeClient.Proofs.Metrics.Accounting
import BridgeClient.Proofs.Metrics.Awaiting
import BridgeClient.Proofs.Metrics.Counting
import BridgeClient.Proofs.Number.Arithmetic
import BridgeClient.Proofs.Number.Rounding
import BridgeClient.Proofs.Program.Instructions
import BridgeClient.Proofs.Program.Reading
import BridgeClient.Proofs.Program.Transfer
import BridgeClient.Proofs.Sequencing
import BridgeClient.Proofs.Text.Base58
import BridgeClient.Proofs.Wire.Building
import BridgeClient.Proofs.Wire.Layout
import BridgeClient.Proofs.Wire.Overlap
import BridgeClient.Rpc.Client
import BridgeClient.Rpc.Envelope
import BridgeClient.Text.Ascii
import BridgeClient.Text.Base58
import BridgeClient.Text.Base64
import BridgeClient.Text.Blank
import BridgeClient.Text.CodeRanges
import BridgeClient.Text.Composed
import BridgeClient.Text.Direction
import BridgeClient.Text.Hex
import BridgeClient.Text.Joining
import BridgeClient.Text.Marks
import BridgeClient.Text.Quoted
import BridgeClient.Text.Unprinted
import BridgeClient.Toml.Reader
import BridgeClient.Toml.Scalar
import BridgeClient.Toml.Tree
import BridgeClient.Url.Address
import BridgeClient.Url.Basic
import BridgeClient.Url.Domain
import BridgeClient.Url.Folding
import BridgeClient.Url.Form
import BridgeClient.Url.Host
import BridgeClient.Url.Label
import BridgeClient.Url.Path
import BridgeClient.Url.Percent
import BridgeClient.Url.Punycode
import BridgeClient.Wire.Builder
import BridgeClient.Wire.Operation
import BridgeClient.Wire.Shown
import BridgeClient.Proofs.Await.WatchedKey
import BridgeClient.Proofs.Config.Placeholder
import BridgeClient.Proofs.Ledger.AccountLayout
import BridgeClient.Proofs.Number.WholePart
import BridgeClient.Proofs.Explorer.Request
import BridgeClient.Proofs.Ledger.CompactForms
import BridgeClient.Proofs.Ledger.SignedSize
import BridgeClient.Proofs.Rpc.Accounts
import BridgeClient.Proofs.Rpc.Sends
