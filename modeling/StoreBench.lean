import StoreBench.Blob.Circumstance
import StoreBench.Blob.Client
import StoreBench.Blob.Mix
import StoreBench.Blob.Request
import StoreBench.Blob.Store
import StoreBench.Cell
import StoreBench.CommandLine.Argument
import StoreBench.CommandLine.Notice
import StoreBench.CommandLine.Parse
import StoreBench.CommandLine.Reply
import StoreBench.CommandLine.Request
import StoreBench.CommandLine.Session
import StoreBench.CommandLine.Settings
import StoreBench.CommandLine.World
import StoreBench.Connection.Barrier
import StoreBench.Connection.Location
import StoreBench.Connection.Options
import StoreBench.Connection.Settings
import StoreBench.Database
import StoreBench.Database.Catalog
import StoreBench.Database.Snapshot
import StoreBench.Decimal.Binary64
import StoreBench.Decimal.Fixed
import StoreBench.Decimal.Held
import StoreBench.Decimal.Natural
import StoreBench.Decimal.Reading
import StoreBench.Decimal.Shortest
import StoreBench.Duration
import StoreBench.Failure
import StoreBench.Footprint
import StoreBench.Load.Batches
import StoreBench.Load.Stats
import StoreBench.Log
import StoreBench.Main
import StoreBench.Outcome
import StoreBench.Random.Block
import StoreBench.Random.Bytes
import StoreBench.Random.Choice
import StoreBench.Random.Draw
import StoreBench.Random.Stream
import StoreBench.Run.Phase
import StoreBench.Run.Report
import StoreBench.Run.Report.Printer
import StoreBench.Run.Rounds
import StoreBench.Run.Schedule
import StoreBench.Run.Script
import StoreBench.Run.Signal
import StoreBench.Run.Tally
import StoreBench.StarSchema.Database
import StoreBench.StarSchema.Evaluation
import StoreBench.StarSchema.Queries
import StoreBench.StarSchema.Report
import StoreBench.StarSchema.Statement
import StoreBench.StarSchema.Timing
import StoreBench.StarSchema.Token
import StoreBench.Summary
import StoreBench.Telecom.Action
import StoreBench.Telecom.Command
import StoreBench.Telecom.Circumstance
import StoreBench.Telecom.Definition
import StoreBench.Telecom.Domain
import StoreBench.Telecom.Feed
import StoreBench.Telecom.Handle
import StoreBench.Telecom.Loading
import StoreBench.Telecom.Plan
import StoreBench.Telecom.Population
import StoreBench.Telecom.Procedure
import StoreBench.Telecom.Record
import StoreBench.Telecom.Row
import StoreBench.Telecom.Session
import StoreBench.Telecom.Statement
import StoreBench.Telecom.Store
import StoreBench.Telecom.SubscriberNumber
import StoreBench.Telecom.Tables
import StoreBench.Telecom.Traffic
import StoreBench.Telecom.Transaction
import StoreBench.Text.Alphanumeric
import StoreBench.Text.Blank
import StoreBench.Text.Case
import StoreBench.Text.Column
import StoreBench.Text.Hex
import StoreBench.Text.Json
import StoreBench.Text.Lines
import StoreBench.Text.Utf8
import StoreBench.Text.Variables
import StoreBench.Workspace
import StoreBench.Workspace.Opening
import StoreBench.Workspace.Path
import StoreBench.Proofs.Run.History
import StoreBench.Proofs.Run.Recorded
import StoreBench.Proofs.Run.Invariant
import StoreBench.Proofs.Run.Counting
import StoreBench.Proofs.Run.Progress
import StoreBench.Proofs.Run.Ending
import StoreBench.Proofs.Run.Stopping
import StoreBench.Proofs.Random.Always
import StoreBench.Proofs.Random.Choice
import StoreBench.Proofs.Telecom.Fields
import StoreBench.Proofs.Telecom.Blocks
import StoreBench.Proofs.Telecom.SubscriberNumber
import StoreBench.Proofs.Telecom.Keys
import StoreBench.Proofs.Telecom.Population
import StoreBench.Proofs.Telecom.Lengths
import StoreBench.Proofs.Telecom.Insertion
import StoreBench.Proofs.Load.Batches
import StoreBench.Proofs.Load.Chunks
import StoreBench.Proofs.Telecom.Columns
import StoreBench.Proofs.Telecom.Loading
import StoreBench.Proofs.Telecom.Emission
import StoreBench.Proofs.Telecom.Continuation
import StoreBench.Proofs.Telecom.Atomicity
import StoreBench.Proofs.Footprint
import StoreBench.Proofs.Telecom.Plans
import StoreBench.Proofs.Telecom.Access
import StoreBench.Proofs.Telecom.Running
import StoreBench.Proofs.Telecom.Invariance
import StoreBench.Proofs.Telecom.Clients
import StoreBench.Proofs.Telecom.Calls
import StoreBench.Proofs.Telecom.Forwardings
import StoreBench.Proofs.Telecom.Integrity
import StoreBench.Proofs.Telecom.Reachability
import StoreBench.Proofs.Telecom.Enforcement
import StoreBench.Proofs.Telecom.Slices
import StoreBench.Proofs.Telecom.Reference
import StoreBench.Proofs.Telecom.Traces
import StoreBench.Proofs.Telecom.Effects
import StoreBench.Proofs.Telecom.Independence
import StoreBench.Proofs.Telecom.Balance
import StoreBench.Proofs.Load.Refusal
import StoreBench.Proofs.Decimal.Natural
import StoreBench.Proofs.Telecom.Numbering
import StoreBench.Proofs.Telecom.KeySpace
import StoreBench.Proofs.Telecom.Acceptance
import StoreBench.Proofs.Random.Fairness
import StoreBench.Proofs.Telecom.Fairness
import StoreBench.Proofs.Run.Signal.Moves
import StoreBench.Proofs.Run.Signal.Invariant
import StoreBench.Proofs.Run.Signal.Wakeups
import StoreBench.Proofs.Blob.Calls
import StoreBench.Proofs.Blob.LastWrite
import StoreBench.Proofs.StarSchema.Order
import StoreBench.Proofs.Decimal.Binary64
import StoreBench.Proofs.StarSchema.Percentiles
import StoreBench.Proofs.Text.Lines
import StoreBench.Proofs.Run.Printing
import StoreBench.Proofs.Telecom.Seeds
