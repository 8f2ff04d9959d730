import EdgePolicy.Main
import EdgePolicy.Session
import EdgePolicy.Proofs.Except
import EdgePolicy.Proofs.Condition.Groups
import EdgePolicy.Proofs.Expression.Passage
import EdgePolicy.Proofs.Expression.Written
import EdgePolicy.Proofs.Expression.Reading
import EdgePolicy.Proofs.Expression.Recognition
import EdgePolicy.Proofs.Expression.Selection
import EdgePolicy.Proofs.Expression.RoundTrip
import EdgePolicy.Proofs.Expression.Pieces
import EdgePolicy.Proofs.Expression.Accounting
import EdgePolicy.Proofs.Expression.Soundness
import EdgePolicy.Proofs.Expression.Precedence
import EdgePolicy.Proofs.Expression.Context
import EdgePolicy.Proofs.Expression.Joined
import EdgePolicy.Proofs.Expression.Standalone
import EdgePolicy.Proofs.Expression.Addresses
import EdgePolicy.Proofs.Json.Covers
import EdgePolicy.Proofs.Zone.Containers
import EdgePolicy.Proofs.Zone.Replies
import EdgePolicy.Proofs.Zone.Traits
import EdgePolicy.Proofs.Zone.Run
import EdgePolicy.Proofs.Zone.Identifiers
import EdgePolicy.Proofs.Zone.Edits
import EdgePolicy.Proofs.Zone.Frame
import EdgePolicy.Proofs.Zone.Progress
import EdgePolicy.Proofs.Zone.Changes
import EdgePolicy.Proofs.Reconcile.Entry
import EdgePolicy.Proofs.Reconcile.Conclude
import EdgePolicy.Proofs.Reconcile.Stages
import EdgePolicy.Proofs.Reconcile.Convergence
import EdgePolicy.Proofs.Reconcile.Idempotence
import EdgePolicy.Proofs.Reconcile.Revision
import EdgePolicy.Proofs.Reconcile.Retry
import EdgePolicy.Proofs.Zone.Order
import EdgePolicy.Proofs.Reconcile.History
import EdgePolicy.Proofs.Reconcile.Ordering
import EdgePolicy.Proofs.Payload.Addresses
import EdgePolicy.Proofs.Payload.Refusal
import EdgePolicy.Proofs.Policy.Tags
import EdgePolicy.Proofs.View.Said
import EdgePolicy.Proofs.View.Topic
import EdgePolicy.Proofs.View.Applied
import EdgePolicy.Proofs.View.Waf
import EdgePolicy.Proofs.View.Reported
import EdgePolicy.Proofs.Text.Utf8
import EdgePolicy.Proofs.Text.Digits
import EdgePolicy.Proofs.Journal.Timestamp
import EdgePolicy.Proofs.Journal.Record
import EdgePolicy.Proofs.Journal.Chain
import EdgePolicy.Proofs.Json.Strings
import EdgePolicy.Proofs.Json.Layout
import EdgePolicy.Proofs.Json.Compact
import EdgePolicy.Proofs.Json.Nesting
import EdgePolicy.Proofs.Condition.Document
import EdgePolicy.Proofs.Expression.Rewriting
import EdgePolicy.Proofs.Journal.Tampering
import EdgePolicy.Proofs.Zone.Contents
import EdgePolicy.Proofs.Zone.Silence
import EdgePolicy.Proofs.Zone.Faults
import EdgePolicy.Proofs.Reconcile.Account
import EdgePolicy.Proofs.Reconcile.Failure
import EdgePolicy.Proofs.Reconcile.Replay
import EdgePolicy.Proofs.Reconcile.Upkeep
import EdgePolicy.Proofs.Zone.Course
import EdgePolicy.Proofs.Reconcile.Decisions
import EdgePolicy.Proofs.CommandLine.JournalFile
import EdgePolicy.Proofs.Policy.Settings
import EdgePolicy.Proofs.View.Sources
import EdgePolicy.Proofs.View.Cache
import EdgePolicy.Proofs.View.ReadBack
import EdgePolicy.Proofs.Reconcile.Requests
import EdgePolicy.Proofs.View.Readable
import EdgePolicy.Proofs.View.Bots
import EdgePolicy.Proofs.View.BotsShown
import EdgePolicy.Proofs.Zone.Interleaved
import EdgePolicy.Proofs.Reconcile.Concurrent
import EdgePolicy.Proofs.Zone.Answers
import EdgePolicy.Proofs.Http.Lossy
import EdgePolicy.Proofs.Json.Numbers
import EdgePolicy.Proofs.Json.Free
import EdgePolicy.Proofs.Zone.Wire
import EdgePolicy.Proofs.Http.Address
import EdgePolicy.Proofs.Http.Server
import EdgePolicy.Proofs.Http.Replies
import EdgePolicy.Proofs.Http.Agreement
import EdgePolicy.Proofs.Http.Success
import EdgePolicy.Proofs.Expression.Offsets
import EdgePolicy.Proofs.Payload.Grammar
import EdgePolicy.Proofs.View.Buildable
import EdgePolicy.Proofs.Json.Literals
import EdgePolicy.Proofs.Json.Height
import EdgePolicy.Proofs.Json.Fields
import EdgePolicy.Proofs.Payload.ReadBack
import EdgePolicy.Proofs.Payload.Travels
import EdgePolicy.Proofs.Payload.Schema
import EdgePolicy.Proofs.Json.CoveringOrder
import EdgePolicy.Proofs.Http.Backoff
