import SceneWorkflow.Instant.Parser
import SceneWorkflow.Instant.Printer
import SceneWorkflow.Json.Canonical
import SceneWorkflow.Json.Parser
import SceneWorkflow.Json.Printer
import SceneWorkflow.Json.Record
import SceneWorkflow.Status.Counts
import SceneWorkflow.Topic
import SceneWorkflow.Text.Glob
import SceneWorkflow.Attributes
import SceneWorkflow.Config
import SceneWorkflow.Entity
import SceneWorkflow.Request
import SceneWorkflow.Store.Basic
import SceneWorkflow.Store.Read
import SceneWorkflow.Store.Write
import SceneWorkflow.Store.Rows
import SceneWorkflow.Program
import SceneWorkflow.Store.Call
import SceneWorkflow.Work
import SceneWorkflow.Fault
import SceneWorkflow.Sink.Basic
import SceneWorkflow.Sink.JsonLines
import SceneWorkflow.Cascade.Job
import SceneWorkflow.Cascade.Scene
import SceneWorkflow.Ingestion
import SceneWorkflow.Outbox
import SceneWorkflow.UnitOfWork
import SceneWorkflow.Consumer
import SceneWorkflow.Drawing
import SceneWorkflow.Query
import SceneWorkflow.Sweep
import SceneWorkflow.Service
import SceneWorkflow.Main
import SceneWorkflow.Proofs.KeyMap.Lookup
import SceneWorkflow.Proofs.Json.Digits
import SceneWorkflow.Proofs.Json.Tokens
import SceneWorkflow.Proofs.Json.Reading
import SceneWorkflow.Proofs.Json.Records
import SceneWorkflow.Proofs.Json.Spelling
import SceneWorkflow.Proofs.Json.Restating
import SceneWorkflow.Proofs.Instant.Reading
import SceneWorkflow.Proofs.Wire.Values
import SceneWorkflow.Proofs.Wire.Jobs
import SceneWorkflow.Proofs.Wire.Texts
import SceneWorkflow.Proofs.Wire.Restated
import SceneWorkflow.Proofs.Work.Laws
import SceneWorkflow.Proofs.Work.Calls
import SceneWorkflow.Proofs.Store.Tables
import SceneWorkflow.Proofs.Store.Areas
import SceneWorkflow.Proofs.Store.Changes
import SceneWorkflow.Proofs.Wire.Rows
import SceneWorkflow.Proofs.Store.Schema
import SceneWorkflow.Proofs.Store.Names
import SceneWorkflow.Proofs.UnitOfWork.Notes
import SceneWorkflow.Proofs.UnitOfWork.Bodies
import SceneWorkflow.Proofs.UnitOfWork.Disturbance
import SceneWorkflow.Proofs.UnitOfWork.Passages
import SceneWorkflow.Proofs.Outbox.Order
import SceneWorkflow.Proofs.Outbox.Relay
import SceneWorkflow.Proofs.Outbox.Log
import SceneWorkflow.Proofs.UnitOfWork.Commit
import SceneWorkflow.Proofs.UnitOfWork.Calm
import SceneWorkflow.Proofs.UnitOfWork.Pairs
import SceneWorkflow.Proofs.Cascade.Jobs
import SceneWorkflow.Proofs.Cascade.Failure
import SceneWorkflow.Proofs.Cascade.Lifecycle
import SceneWorkflow.Proofs.Cascade.Starting
import SceneWorkflow.Proofs.Cascade.References
import SceneWorkflow.Proofs.Cascade.Handover
import SceneWorkflow.Proofs.Cascade.Sound
import SceneWorkflow.Proofs.Cascade.Tracking
import SceneWorkflow.Proofs.Cascade.TileSteps
import SceneWorkflow.Proofs.Cascade.SceneSteps
import SceneWorkflow.Proofs.Cascade.Forest
import SceneWorkflow.Proofs.Cascade.ForestSteps
import SceneWorkflow.Proofs.Cascade.Chains
import SceneWorkflow.Proofs.Cascade.Releases
import SceneWorkflow.Proofs.Cascade.Effects
import SceneWorkflow.Proofs.Cascade.Locality
import SceneWorkflow.Proofs.Cascade.Outcomes
import SceneWorkflow.Proofs.Cascade.Bystanders
import SceneWorkflow.Proofs.Engine.Sweeps
import SceneWorkflow.Proofs.Engine.Commands
import SceneWorkflow.Proofs.Engine.Ingestion
import SceneWorkflow.Proofs.Engine.Soundness
import SceneWorkflow.Proofs.Engine.Readiness
import SceneWorkflow.Proofs.Engine.Comparisons
import SceneWorkflow.Proofs.Engine.JobLinks
import SceneWorkflow.Proofs.Engine.Traffic
import SceneWorkflow.Proofs.Engine.Activities
import SceneWorkflow.Proofs.Engine.Forests
import SceneWorkflow.Proofs.Engine.Splices
import SceneWorkflow.Proofs.Engine.Atomicity
import SceneWorkflow.Proofs.Engine.Delivery
import SceneWorkflow.Proofs.Engine.Requests
import SceneWorkflow.Proofs.Engine.Aggregates
import SceneWorkflow.Proofs.Engine.Completion
import SceneWorkflow.Proofs.Engine.Turns
import SceneWorkflow.Proofs.Engine.Commuting
import SceneWorkflow.Proofs.Engine.Endings
import SceneWorkflow.Proofs.Engine.Interleavings
import SceneWorkflow.Proofs.Cascade.Baselines
import SceneWorkflow.Proofs.Cascade.Elections
import SceneWorkflow.Proofs.Engine.Cycles
import SceneWorkflow.Proofs.Engine.Frames
import SceneWorkflow.Proofs.Engine.Confinement
import SceneWorkflow.Proofs.Engine.Isolation
import SceneWorkflow.Proofs.Engine.Publishers
import SceneWorkflow.Proofs.Engine.Redelivery
import SceneWorkflow.Proofs.Engine.Transcripts
import SceneWorkflow.Proofs.Engine.Handovers
import SceneWorkflow.Proofs.Engine.Insertions
import SceneWorkflow.Proofs.Engine.Admissions
import SceneWorkflow.Proofs.Store.Statements
import SceneWorkflow.Proofs.Engine.Usage
import SceneWorkflow.Proofs.UnitOfWork.Undisturbed
import SceneWorkflow.Proofs.Outbox.Lines
import SceneWorkflow.Proofs.Service.Input
import SceneWorkflow.Proofs.Service.Restart
import SceneWorkflow.Proofs.Outbox.Chunks
import SceneWorkflow.Proofs.Outbox.Batches
import SceneWorkflow.Proofs.Engine.Requeueing
import SceneWorkflow.Proofs.Engine.Refusals
import SceneWorkflow.Proofs.Engine.SweepRequests
import SceneWorkflow.Proofs.Engine.SweepReadings
import SceneWorkflow.Proofs.Engine.Sweeping
import SceneWorkflow.Proofs.UnitOfWork.Failures
import SceneWorkflow.Proofs.Engine.Holdings
import SceneWorkflow.Proofs.Engine.Replays
import SceneWorkflow.Proofs.Engine.Journals
import SceneWorkflow.Proofs.Engine.Ledger
import SceneWorkflow.Proofs.UnitOfWork.Rereading
import SceneWorkflow.Proofs.Drawing.Reading
import SceneWorkflow.Proofs.Sink.Framing
import SceneWorkflow.Proofs.Engine.Output
