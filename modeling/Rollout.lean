import Rollout.CommandLine.EntryPoint
import Rollout.Main
import Rollout.Text.Units
import Rollout.Proofs.Schedule.Queue
import Rollout.Proofs.Topology.Startup
import Rollout.Proofs.Schedule.Counters
import Rollout.Proofs.Schedule.Sweep
import Rollout.Proofs.Schedule.StartOrder
import Rollout.Proofs.Validation.Cycle
import Rollout.Proofs.Plan.Success
import Rollout.Proofs.Grouping
import Rollout.Proofs.Number.Order
import Rollout.Proofs.Schema.Checked
import Rollout.Proofs.Schema.Node
import Rollout.Proofs.Topology.Decode
import Rollout.Proofs.Validation.Budget
import Rollout.Proofs.Validation.Conditions
import Rollout.Proofs.Validation.Criteria
import Rollout.Proofs.Plan.Entries
import Rollout.Proofs.Record
import Rollout.Proofs.Plan.Dependencies
import Rollout.Proofs.Plan.RequiredTargets
import Rollout.Proofs.Schedule.Graph
import Rollout.Proofs.Validation.Rearranged
import Rollout.Proofs.Plan.Rearranged
import Rollout.Proofs.Number.Whole
import Rollout.Proofs.Catalog.Words
import Rollout.Proofs.Schema.Values
import Rollout.Proofs.Schema.Fields
import Rollout.Proofs.Schema.Written
import Rollout.Proofs.Topology.Modes
import Rollout.Proofs.Topology.Duplicates
import Rollout.Proofs.Source.Document
import Rollout.Proofs.Schema.Figures
import Rollout.Proofs.Text.Blank
import Rollout.Proofs.Plan.WellFormed
import Rollout.Proofs.Log.Line
import Rollout.Proofs.CommandLine.Run
import Rollout.Proofs.CommandLine.Modes
import Rollout.Proofs.Settings.Policy
import Rollout.Proofs.Number.Binary64
import Rollout.Proofs.Number.Decimal
import Rollout.Proofs.Number.Shortest
import Rollout.Proofs.Json.Number
import Rollout.Proofs.Json.Reader
import Rollout.Proofs.Record.Canonical
import Rollout.Proofs.Json.RoundTrip
import Rollout.Proofs.Schema.Legal
import Rollout.Proofs.Plan.Document
import Rollout.Proofs.Validation.Descent
import Rollout.Proofs.Schedule.Unplaced
import Rollout.Proofs.Log.Redaction
import Rollout.Proofs.Plan.Ports
import Rollout.Proofs.Validation.Mounts
import Rollout.Proofs.Plan.Mounts
import Rollout.Proofs.Plan.DependencyViews
import Rollout.Proofs.Topology.Queries
import Rollout.Proofs.Plan.Backends
import Rollout.Proofs.Plan.Buses
import Rollout.Proofs.Plan.PortViews
import Rollout.Proofs.Log.Places
import Rollout.Proofs.Number.Rounding
import Rollout.Proofs.Topology.Report
import Rollout.Proofs.Validation.Totals
import Rollout.Proofs.Schedule.Arrivals
import Rollout.Proofs.Validation.Traversal
import Rollout.Proofs.Log.Stream
import Rollout.Proofs.Number.Range
import Rollout.Proofs.Number.Literal
import Rollout.Proofs.Settings.Ceilings
