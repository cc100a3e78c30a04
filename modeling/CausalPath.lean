import CausalPath.Builder.Basic
import CausalPath.Builder.Dispatch
import CausalPath.Builder.Wakeup
import CausalPath.CommandLine.Options
import CausalPath.CommandLine.Program
import CausalPath.Config
import CausalPath.Context
import CausalPath.Decimal
import CausalPath.EdgeState
import CausalPath.Event.Basic
import CausalPath.Event.Stream
import CausalPath.Graph.Basic
import CausalPath.Graph.Document
import CausalPath.Graph.Mutation
import CausalPath.Graph.Scan
import CausalPath.Graph.Snapshot
import CausalPath.Layout
import CausalPath.Main
import CausalPath.Matching
import CausalPath.Packet
import CausalPath.Path.Basic
import CausalPath.Path.Breakdown
import CausalPath.Path.Cache
import CausalPath.Path.Compute
import CausalPath.Path.Draft
import CausalPath.Path.Search
import CausalPath.Pattern.Basic
import CausalPath.Pattern.Bracket
import CausalPath.Pattern.Escape
import CausalPath.Pattern.Flags
import CausalPath.Pattern.Matching
import CausalPath.Pattern.Parser
import CausalPath.Pattern.Size
import CausalPath.Proofs.Build.Matching
import CausalPath.Proofs.Build.Rules
import CausalPath.Proofs.Draft.Homing
import CausalPath.Proofs.Draft.Journey
import CausalPath.Proofs.Draft.Links
import CausalPath.Proofs.Draft.Mirror
import CausalPath.Proofs.Draft.Progress
import CausalPath.Proofs.Draft.Refusal
import CausalPath.Proofs.Draft.Steps
import CausalPath.Proofs.Guards
import CausalPath.Proofs.Path.Acyclic
import CausalPath.Proofs.Path.Agreement
import CausalPath.Proofs.Path.Calm
import CausalPath.Proofs.Path.Cycle
import CausalPath.Proofs.Path.Ending
import CausalPath.Proofs.Path.Leading
import CausalPath.Proofs.Path.Moves
import CausalPath.Proofs.Path.Outcome
import CausalPath.Proofs.Path.OwnChain
import CausalPath.Proofs.Path.Parts
import CausalPath.Proofs.Path.Passing
import CausalPath.Proofs.Path.Rewind
import CausalPath.Proofs.Path.Segments
import CausalPath.Proofs.Path.Sources
import CausalPath.Proofs.Path.Stability
import CausalPath.Proofs.Scan.Exact
import CausalPath.Proofs.Scan.Heads
import CausalPath.Proofs.Scan.Items
import CausalPath.Proofs.Search.Agreement
import CausalPath.Proofs.Search.Arrival
import CausalPath.Proofs.Search.Course
import CausalPath.Proofs.Search.Endless
import CausalPath.Proofs.Search.Feeds
import CausalPath.Proofs.Search.Instant
import CausalPath.Proofs.Search.Leaving
import CausalPath.Proofs.Search.Order
import CausalPath.Proofs.Search.Precedence
import CausalPath.Proofs.Search.Wakeup
import CausalPath.Proofs.Search.Walk
import CausalPath.Proofs.Store.Closing
import CausalPath.Proofs.Store.Growth
import CausalPath.Proofs.Store.Invariant
import CausalPath.Proofs.Store.Listing
import CausalPath.Proofs.Store.Refused
import CausalPath.Proofs.Store.Restored
import CausalPath.Proofs.Store.RoundTrip
import CausalPath.Proofs.Store.Run
import CausalPath.Proofs.Store.Sound
import CausalPath.Proofs.Store.Step
import CausalPath.Proofs.Store.View
import CausalPath.Report.Document
import CausalPath.Report.Listing
import CausalPath.System
import CausalPath.Table
import CausalPath.Proofs.Table
import CausalPath.Text.Align
import CausalPath.Text.Blank
import CausalPath.Text.CharSet
import CausalPath.Text.Digits
import CausalPath.Time
import CausalPath.Toml.Document
import CausalPath.Toml.Literal
import CausalPath.Unicode.Age
import CausalPath.Unicode.Break
import CausalPath.Unicode.CaseFold
import CausalPath.Unicode.Category
import CausalPath.Unicode.Property
import CausalPath.Unicode.Query
import CausalPath.Unicode.Script
import CausalPath.Unmarked
import CausalPath.Value.Basic
import CausalPath.Value.Json
import CausalPath.Value.MessagePack
import CausalPath.Worker
import CausalPath.Proofs.Build.Steady
import CausalPath.Proofs.Build.Course
import CausalPath.Proofs.Build.Event
import CausalPath.Proofs.Build.Steps
import CausalPath.Proofs.Build.Handlers
import CausalPath.Proofs.Build.Packets
import CausalPath.Proofs.Build.Run
import CausalPath.Proofs.Build.Paths
import CausalPath.Proofs.Build.Balance
import CausalPath.Proofs.Build.Consumption
import CausalPath.Proofs.Build.Coverage
import CausalPath.Proofs.Hosts.View
import CausalPath.Proofs.Hosts.Writes
import CausalPath.Proofs.Hosts.Twins
import CausalPath.Proofs.Hosts.Handlers
import CausalPath.Proofs.Hosts.Run
import CausalPath.Proofs.Store.Answers
import CausalPath.Proofs.Store.Images
import CausalPath.Proofs.Store.Saved
import CausalPath.Proofs.Store.Strict
import CausalPath.Proofs.Value.MessagePack
import CausalPath.Proofs.Value.Record
import CausalPath.Proofs.Matching.Calls
import CausalPath.Proofs.Matching.Accounts
import CausalPath.Proofs.Matching.Automaton
import CausalPath.Proofs.Path.Cache
import CausalPath.Proofs.Build.Watch
import CausalPath.Proofs.Build.Attribution
import CausalPath.Proofs.Build.Abiding
import CausalPath.Proofs.Build.Rejection
import CausalPath.Proofs.Build.Switching
import CausalPath.Proofs.Build.Rewaking
import CausalPath.Proofs.Store.Linking
import CausalPath.Proofs.Store.Completion
import CausalPath.Proofs.Scan.Retracing
import CausalPath.Proofs.Nesting
import CausalPath.Proofs.Text.Bytes
import CausalPath.Proofs.Value.Json
import CausalPath.Proofs.Event.Stream
import CausalPath.Proofs.Search.Window
import CausalPath.Proofs.Path.Totals
