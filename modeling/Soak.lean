import Soak.Action
import Soak.Attributes
import Soak.Chain
import Soak.Command.Arguments
import Soak.Command.Console
import Soak.Command.Execute
import Soak.Command.Overrides
import Soak.Config.Basic
import Soak.Config.Json
import Soak.Json.Basic
import Soak.Json.Printer
import Soak.Json.Reader
import Soak.Load.Execute
import Soak.Load.Payload
import Soak.Load.Run
import Soak.Longevity.Monitor
import Soak.Longevity.Run
import Soak.Longevity.Worker
import Soak.Main
import Soak.Naming
import Soak.Number.Instances
import Soak.Number.Binary64
import Soak.Number.Fixed
import Soak.Number.Shortest
import Soak.Partition
import Soak.Policy
import Soak.Populate
import Soak.Proofs.Store.Shared
import Soak.Query.Basic
import Soak.Query.Like
import Soak.Query.Parse
import Soak.Random.Draw
import Soak.Random.Generator
import Soak.Registry
import Soak.Rehearsal.Fault
import Soak.Rehearsal.Recorder
import Soak.Rehearsal.Transcript
import Soak.Session.Outcome
import Soak.Session.Program
import Soak.Session.Request
import Soak.Session.Run
import Soak.Session.WorkerStatus
import Soak.SetupError
import Soak.Store.Basic
import Soak.Store.Call
import Soak.Store.Error
import Soak.Store.Record
import Soak.Summary
import Soak.Text.Blank
import Soak.Time.Duration
import Soak.Time.Spans
import Soak.Time.Timestamp
import Soak.Proofs.Limit
import Soak.Proofs.Text.Bytes
import Soak.Proofs.Naming.Numbers
import Soak.Proofs.Query.Reading
import Soak.Proofs.Store.Handles
import Soak.Proofs.Store.Opened
import Soak.Proofs.Store.Cells
import Soak.Proofs.Store.CellHistory
import Soak.Proofs.Store.Snapshots
import Soak.Proofs.Store.Rename
import Soak.Proofs.Store.Ownership
import Soak.Proofs.Store.Alone
import Soak.Proofs.Store.Numbers
import Soak.Proofs.Session.Duty
import Soak.Proofs.Session.Pool
import Soak.Proofs.Session.Memory
import Soak.Proofs.Session.World
import Soak.Proofs.Longevity.Census
import Soak.Proofs.Longevity.Counters
import Soak.Proofs.Longevity.Crew
import Soak.Proofs.Longevity.Outline
import Soak.Proofs.Longevity.Trajectory
import Soak.Proofs.Store.Pages
import Soak.Proofs.Store.Frame
import Soak.Proofs.Store.Contents
import Soak.Proofs.Store.Decoding
import Soak.Proofs.Longevity.Accounts
import Soak.Proofs.Session.Faulty
import Soak.Proofs.Longevity.Estate
import Soak.Proofs.Longevity.Truth
import Soak.Proofs.Longevity.Chronicle
import Soak.Proofs.Longevity.Agreement
import Soak.Proofs.Session.Rehearsed
import Soak.Proofs.Longevity.Recovery
import Soak.Proofs.Store.Inside
import Soak.Proofs.Session.Course
import Soak.Proofs.Session.Steady
import Soak.Proofs.Session.Tenant
import Soak.Proofs.Session.Dealings
import Soak.Proofs.Session.Progress
import Soak.Proofs.Session.Conduct
import Soak.Proofs.Longevity.Forecast
import Soak.Proofs.Longevity.Replay
import Soak.Proofs.Longevity.Workers
import Soak.Proofs.Longevity.Removal
import Soak.Proofs.Longevity.Deadline
import Soak.Proofs.Longevity.Cleanup
import Soak.Proofs.Chain.Stage
import Soak.Proofs.Chain.Trace
import Soak.Proofs.Load.Stock
import Soak.Proofs.Load.DataSet
import Soak.Proofs.Load.Filling
import Soak.Proofs.Load.Population
import Soak.Proofs.Load.Prepared
import Soak.Proofs.Store.Refusals
import Soak.Proofs.Store.Lifetimes
import Soak.Proofs.Session.Errand
import Soak.Proofs.Load.Balance
import Soak.Proofs.Chain.Balance
import Soak.Proofs.Longevity.Balance
import Soak.Proofs.Balance
import Soak.Proofs.Registry.Views
import Soak.Proofs.Time.Spans
import Soak.Proofs.Time.Timestamp
import Soak.Proofs.Config.Survival
import Soak.Proofs.Session.Manners
import Soak.Proofs.Session.Timed
import Soak.Proofs.Session.Ledger
import Soak.Proofs.Load.Books
import Soak.Proofs.Load.Setup
import Soak.Proofs.Load.Report
import Soak.Proofs.Load.Surplus
import Soak.Proofs.Load.Undoing
import Soak.Proofs.Longevity.Access
import Soak.Proofs.Checks
import Soak.Proofs.Query.Wildcards
import Soak.Proofs.Partition.Shares
import Soak.Proofs.Policy.Oscillation
import Soak.Proofs.Longevity.Scan
import Soak.Proofs.Naming.Threads
import Soak.Proofs.Random.Streams
import Soak.Proofs.Command.Overrides
import Soak.Proofs.Summary
