import AgentSessions.Text.Bytes
import AgentSessions.Decimal.Shortest
import AgentSessions.Decimal.Reading
import AgentSessions.Json.Value
import AgentSessions.Json.Writer
import AgentSessions.Json.Decode
import AgentSessions.Instant
import AgentSessions.Priority
import AgentSessions.Ident
import AgentSessions.History.Snapshot
import AgentSessions.History.Tokens
import AgentSessions.Model
import AgentSessions.Event
import AgentSessions.Settings.Loading
import AgentSessions.Simulation.Pool
import AgentSessions.Store.Error
import AgentSessions.Task.Error
import AgentSessions.Queue.Message
import AgentSessions.Run.Outcome
import AgentSessions.Hook.Request
import AgentSessions.Hook.Registry
import AgentSessions.Hook.Chain
import AgentSessions.Check.Permission
import AgentSessions.Session.Quota
import AgentSessions.Session.Basic
import AgentSessions.Text.CodeRanges
import AgentSessions.Text.Unassigned
import AgentSessions.Text.Extending
import AgentSessions.Text.Unshown
import AgentSessions.Text.Quoted
import AgentSessions.Queue.Manager
import AgentSessions.Queue.LeaseBook
import AgentSessions.Tool.Registry
import AgentSessions.Compaction.Transcript
import AgentSessions.Compaction.Summary
import AgentSessions.Compaction.Basic
import AgentSessions.Task.Basic
import AgentSessions.Event.Emitter
import AgentSessions.Log
import AgentSessions.Store.Memory
import AgentSessions.Store.File
import AgentSessions.About
import AgentSessions.Token
import AgentSessions.Engine.Dialogue
import AgentSessions.Engine.Setup
import AgentSessions.Engine.Call
import AgentSessions.Engine.Run
import AgentSessions.Task.Board
import AgentSessions.Orchestration.Desk
import AgentSessions.Orchestration.Activity
import AgentSessions.Orchestration.World
import AgentSessions.Task.Operations
import AgentSessions.Task.Tool
import AgentSessions.Orchestration.Service
import AgentSessions.Task.Delegation
import AgentSessions.Orchestration.Office
import AgentSessions.Orchestration.Client
import AgentSessions.Rehearsal.Script
import AgentSessions.Rehearsal.Cast
import AgentSessions.Json.Lookup
import AgentSessions.Orchestration.Opening
import AgentSessions.Rehearsal.Naming
import AgentSessions.Rehearsal.Bench
import AgentSessions.Rehearsal.Reading.Causes
import AgentSessions.Rehearsal.Reading.History
import AgentSessions.Rehearsal.Reading.Parts
import AgentSessions.Rehearsal.Reading.Requests
import AgentSessions.Proofs.Dict
import AgentSessions.Proofs.Queue.Entries
import AgentSessions.Proofs.Queue.Arrivals
import AgentSessions.Proofs.Queue.Requests
import AgentSessions.Proofs.Queue.Ledger
import AgentSessions.Proofs.Queue.Refinement
import AgentSessions.Proofs.Orchestration.Desk
import AgentSessions.Proofs.Dialogue.Paths
import AgentSessions.Proofs.Orchestration.Floor
import AgentSessions.Proofs.Orchestration.Leases
import AgentSessions.Proofs.Orchestration.Changes
import AgentSessions.Proofs.Orchestration.Prompts
import AgentSessions.Proofs.Orchestration.Writers
import AgentSessions.Proofs.Orchestration.Handings
import AgentSessions.Proofs.Orchestration.Exclusive
import AgentSessions.Proofs.Orchestration.Office
import AgentSessions.Proofs.Orchestration.Panics
import AgentSessions.Proofs.Task.Entries
import AgentSessions.Proofs.Task.Site
import AgentSessions.Proofs.Task.Moves
import AgentSessions.Proofs.Task.Lifecycle
import AgentSessions.Proofs.Task.Admission
import AgentSessions.Proofs.Task.Office
import AgentSessions.Proofs.Orchestration.Premises
import AgentSessions.Proofs.Session.Counts
import AgentSessions.Proofs.History.WellFormed
import AgentSessions.Proofs.Compaction.Split
import AgentSessions.Proofs.Dialogue.Marks
import AgentSessions.Proofs.Dialogue.Token
import AgentSessions.Proofs.Engine.Asides
import AgentSessions.Proofs.Engine.Compactors
import AgentSessions.Proofs.Engine.Saves
import AgentSessions.Proofs.Engine.Runs
import AgentSessions.Proofs.Engine.History
import AgentSessions.Proofs.Engine.Persistence
import AgentSessions.Proofs.Engine.Accounts
import AgentSessions.Proofs.Engine.Rounds
import AgentSessions.Proofs.Engine.Audit
import AgentSessions.Proofs.Engine.Lifetime
import AgentSessions.Proofs.Engine.Limits
import AgentSessions.Proofs.Engine.Tenure
import AgentSessions.Proofs.Engine.Trips
import AgentSessions.Proofs.Engine.Cancellation
import AgentSessions.Proofs.Orchestration.Cancellation
import AgentSessions.Proofs.Engine.Signals
import AgentSessions.Proofs.Engine.Summary
import AgentSessions.Proofs.Engine.Events
import AgentSessions.Proofs.Orchestration.Running
import AgentSessions.Proofs.History.Clocks
import AgentSessions.Proofs.Engine.Clocks
import AgentSessions.Proofs.Orchestration.Operations
import AgentSessions.Proofs.Orchestration.Elsewhere
import AgentSessions.Proofs.Orchestration.Storing
import AgentSessions.Proofs.Orchestration.Likeness
import AgentSessions.Proofs.Orchestration.Mirrors
import AgentSessions.Proofs.Orchestration.Separation
import AgentSessions.Proofs.Simulation.Looking
import AgentSessions.Proofs.Task.Mandates
import AgentSessions.Proofs.Task.Calls
import AgentSessions.Proofs.Delegation.Tools
import AgentSessions.Proofs.Delegation.Staff
import AgentSessions.Proofs.Delegation.Origins
import AgentSessions.Proofs.Delegation.Depth
import AgentSessions.Proofs.Delegation.Inheritance
import AgentSessions.Proofs.Store.Saves
import AgentSessions.Proofs.Store.Files
import AgentSessions.Proofs.Json.Arrangements
import AgentSessions.Proofs.Json.Values
import AgentSessions.Proofs.Json.Records
import AgentSessions.Proofs.Json.Exchanged
import AgentSessions.Proofs.Settings.ReadingBack
import AgentSessions.Proofs.Json.RoundTrip
import AgentSessions.Proofs.Compaction.Contract
import AgentSessions.Proofs.Compaction.Idempotence
import AgentSessions.Proofs.Engine.CancelledStarts
import AgentSessions.Proofs.Engine.Requests
import AgentSessions.Proofs.Compaction.Savings
import AgentSessions.Proofs.Hook.Registration
import AgentSessions.Proofs.Hook.Hearings
import AgentSessions.Proofs.Hook.PreChain
import AgentSessions.Proofs.Check.Consultation
import AgentSessions.Proofs.Check.Judgement
import AgentSessions.Proofs.Check.Agreement
import AgentSessions.Proofs.Engine.Gate
import AgentSessions.Proofs.Queue.Slots
import AgentSessions.Proofs.Hook.PostChain
import AgentSessions.Proofs.Engine.Reviews
import AgentSessions.Proofs.Simulation.Waking
import AgentSessions.Proofs.Task.Waiting
import AgentSessions.Proofs.Task.Requests
import AgentSessions.Proofs.Task.ToolEffects
import AgentSessions.Proofs.Hook.RunOrder
import AgentSessions.Proofs.Settings.Overrides
import AgentSessions.Proofs.Json.Merging
import AgentSessions.Proofs.Event.Encoding
import AgentSessions.Proofs.Compaction.Transcript
