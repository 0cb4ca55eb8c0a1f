import FeedIndex.Text.Ranges
import FeedIndex.Text.Blank
import FeedIndex.Text.Punctuation
import FeedIndex.Text.Lowercase
import FeedIndex.Text.Quoted
import FeedIndex.Text.Cut
import FeedIndex.Did
import FeedIndex.RecordUri
import FeedIndex.Hashtag
import FeedIndex.Timestamp.Basic
import FeedIndex.Timestamp.Calendar
import FeedIndex.Timestamp.Internet
import FeedIndex.Actor
import FeedIndex.Json.Tree
import FeedIndex.Json.Reader
import FeedIndex.Json.Float
import FeedIndex.Json.Shortest
import FeedIndex.Json.Value
import FeedIndex.Bytes.Basic
import FeedIndex.Bytes.Varint
import FeedIndex.Bytes.Radix
import FeedIndex.Bytes.Sha256
import FeedIndex.Cid
import FeedIndex.Archive
import FeedIndex.Cbor.Head
import FeedIndex.Cbor.Item
import FeedIndex.Cbor.Data
import FeedIndex.Cbor.Lenient
import FeedIndex.Wire.Basic
import FeedIndex.Wire.Json
import FeedIndex.Wire.Cbor
import FeedIndex.Collection
import FeedIndex.Record.Basic
import FeedIndex.Record.Post
import FeedIndex.Classification
import FeedIndex.Commit
import FeedIndex.Record.Opener
import FeedIndex.Transport.Frame
import FeedIndex.Transport.Message
import FeedIndex.Url.Percent
import FeedIndex.Url.Punycode
import FeedIndex.Url.Host
import FeedIndex.Url.Parse
import FeedIndex.Subscription
import FeedIndex.Keyed
import FeedIndex.Store.Basic
import FeedIndex.Store.Memory
import FeedIndex.Timestamp.Column
import FeedIndex.Store.Relational
import FeedIndex.Store.Operation
import FeedIndex.Store.Faulty
import FeedIndex.Ticker
import FeedIndex.Watermark
import FeedIndex.Watermark.Flusher
import FeedIndex.Roster
import FeedIndex.Roster.Refresh
import FeedIndex.Handler
import FeedIndex.Metrics
import FeedIndex.Transport.Session
import FeedIndex.Network
import FeedIndex.Connection
import FeedIndex.Pipeline
import FeedIndex.Pipeline.Run
import FeedIndex.CommandLine.Options
import FeedIndex.CommandLine.Program
import FeedIndex.Main
import FeedIndex.Proofs.Computation
import FeedIndex.Proofs.Handled
import FeedIndex.Proofs.Ledger
import FeedIndex.Proofs.Keyed
import FeedIndex.Proofs.Ledger.Memory
import FeedIndex.Proofs.Ledger.Relational
import FeedIndex.Proofs.Accounts
import FeedIndex.Proofs.Course
import FeedIndex.Proofs.Refusal
import FeedIndex.Proofs.Decisions
import FeedIndex.Proofs.Faulty
import FeedIndex.Proofs.Crew
import FeedIndex.Proofs.Prefixes
import FeedIndex.Proofs.Resuming
import FeedIndex.Proofs.Records
import FeedIndex.Proofs.Deletion
import FeedIndex.Proofs.Tables
import FeedIndex.Proofs.Tables.Memory
import FeedIndex.Proofs.Tables.Relational
import FeedIndex.Proofs.Deeds
import FeedIndex.Proofs.Standing
import FeedIndex.Proofs.Retiming
import FeedIndex.Proofs.Independence
import FeedIndex.Proofs.Provenance
import FeedIndex.Proofs.Growth
import FeedIndex.Proofs.Replay
import FeedIndex.Proofs.Faithful
import FeedIndex.Proofs.Signals
import FeedIndex.Proofs.Requests
import FeedIndex.Proofs.Effects
import FeedIndex.Proofs.OptOut
import FeedIndex.Proofs.Json.Rendered
import FeedIndex.Proofs.Json.Kept
import FeedIndex.Proofs.Columns
import FeedIndex.Proofs.Profiles
import FeedIndex.Proofs.Backends
import FeedIndex.Proofs.Agreement
import FeedIndex.Proofs.Permanence
import FeedIndex.Proofs.Advance
import FeedIndex.Proofs.Freshness
import FeedIndex.Proofs.Delivery
import FeedIndex.Proofs.Archived
import FeedIndex.Proofs.Tiling
import FeedIndex.Proofs.Cbor.Written
import FeedIndex.Proofs.Shipment
import FeedIndex.Proofs.Separation
import FeedIndex.Proofs.Sequential
import FeedIndex.Proofs.Rereading
import FeedIndex.Proofs.Json.Portrayed
import FeedIndex.Proofs.Cbor.Strict
import FeedIndex.Proofs.RawPost
import FeedIndex.Proofs.Naming
import FeedIndex.Proofs.Histories
import FeedIndex.Proofs.Successors
import FeedIndex.Proofs.ColumnTimes
import FeedIndex.Proofs.Canonical
import FeedIndex.Proofs.ReadBack
import FeedIndex.Proofs.Unseen
import FeedIndex.Proofs.CutShort
import FeedIndex.Proofs.Letters
import FeedIndex.Proofs.Cbor.Lossless
import FeedIndex.Proofs.Scanning
import FeedIndex.Proofs.Folding
import FeedIndex.Proofs.Sources
import FeedIndex.Proofs.NormalForm
import FeedIndex.Proofs.ImageTexts
import FeedIndex.Proofs.Languages
import FeedIndex.Proofs.Overflow
import FeedIndex.Proofs.Grammar
import FeedIndex.Proofs.Additions
import FeedIndex.Proofs.Nesting
import FeedIndex.Proofs.RoundTrip
import FeedIndex.Proofs.Recorded
import FeedIndex.Proofs.Workload
import FeedIndex.Proofs.Schedules
