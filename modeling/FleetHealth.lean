import FleetHealth.Api.Address
import FleetHealth.Api.Client
import FleetHealth.Api.Request
import FleetHealth.Api.Status
import FleetHealth.CommandLine.Exit
import FleetHealth.CommandLine.Level
import FleetHealth.Controller.Queue
import FleetHealth.Controller.Reaction
import FleetHealth.Controller.View
import FleetHealth.DryRun
import FleetHealth.Failure
import FleetHealth.Health.Evaluation
import FleetHealth.Health.Target
import FleetHealth.Health.Verdict
import FleetHealth.Http.Diagnostics
import FleetHealth.Http.Response
import FleetHealth.Http.Uri
import FleetHealth.Inspector.Render
import FleetHealth.Inspector.Request
import FleetHealth.Inspector.Run
import FleetHealth.Inspector.Table
import FleetHealth.Json.Basic
import FleetHealth.Json.Numeral
import FleetHealth.Json.Parser
import FleetHealth.Json.Printer
import FleetHealth.Json.Raw
import FleetHealth.Json.Token
import FleetHealth.Label.Name
import FleetHealth.Label.Selector
import FleetHealth.Main
import FleetHealth.Metrics
import FleetHealth.Metrics.Exposition
import FleetHealth.Net.SocketAddress
import FleetHealth.Number.Binary64
import FleetHealth.Number.Binary64.Shortest
import FleetHealth.Number.Decimal
import FleetHealth.Object.Basic
import FleetHealth.Object.Key
import FleetHealth.Object.Machine
import FleetHealth.Object.MachineSet
import FleetHealth.Object.Manifest
import FleetHealth.Object.Metadata
import FleetHealth.Object.Node
import FleetHealth.Object.Policy
import FleetHealth.Object.Shape
import FleetHealth.Operator.Run
import FleetHealth.Operator.Settings
import FleetHealth.Pass
import FleetHealth.Remediation.Execution
import FleetHealth.Remediation.Plan
import FleetHealth.Proofs.Except
import FleetHealth.Proofs.Resolution
import FleetHealth.Proofs.Store.Cluster
import FleetHealth.Proofs.Store.Collection
import FleetHealth.Proofs.Store.Version
import FleetHealth.Proofs.Table
import FleetHealth.Routing
import FleetHealth.Simulation.Run
import FleetHealth.Simulation.Server
import FleetHealth.Store.Cluster
import FleetHealth.Store.Collection
import FleetHealth.Store.Repository
import FleetHealth.Summary
import FleetHealth.Table
import FleetHealth.Text.Blank
import FleetHealth.Text.Numeral
import FleetHealth.Text.Percent
import FleetHealth.Text.Quoted
import FleetHealth.Text.Ranges
import FleetHealth.Text.Scan
import FleetHealth.Text.Split
import FleetHealth.Text.Unprintable
import FleetHealth.Time.Calendar
import FleetHealth.Time.Duration
import FleetHealth.Time.Duration.Parser
import FleetHealth.Time.Instant
import FleetHealth.Time.Instant.Text
import FleetHealth.Yaml.Printer
import FleetHealth.Yaml.Scalar
import FleetHealth.Proofs.Remediation
import FleetHealth.Proofs.Frame
import FleetHealth.Proofs.ControlPlane
import FleetHealth.Proofs.Effect
import FleetHealth.Proofs.Evaluation
import FleetHealth.Proofs.Schedule
import FleetHealth.Proofs.Attempts
import FleetHealth.Proofs.FailedPass
import FleetHealth.Proofs.Success
import FleetHealth.Proofs.Repetition
import FleetHealth.Proofs.Interleaving
import FleetHealth.Proofs.LostUpdate
import FleetHealth.Proofs.StaleTarget
import FleetHealth.Proofs.Retrying
import FleetHealth.Proofs.FailureKinds
import FleetHealth.Proofs.DryRun
import FleetHealth.Proofs.Diagnostics
import FleetHealth.Proofs.Routing
import FleetHealth.Proofs.NodeEvent
import FleetHealth.Proofs.Commutation
import FleetHealth.Proofs.Journal
import FleetHealth.Proofs.Accounting
import FleetHealth.Proofs.Judgement
import FleetHealth.Proofs.Clock
import FleetHealth.Proofs.Duration.Terms
import FleetHealth.Proofs.Duration.Language
import FleetHealth.Proofs.Duration.Rounding
import FleetHealth.Proofs.Duration.Compound
import FleetHealth.Proofs.Label.Name
import FleetHealth.Proofs.Label.Selector
import FleetHealth.Proofs.Label.Query
import FleetHealth.Proofs.Targets
import FleetHealth.Proofs.RepeatedRemediation
import FleetHealth.Proofs.Inventory
import FleetHealth.Proofs.ShownSchedule
import FleetHealth.Proofs.Reference
import FleetHealth.Proofs.Store.History
import FleetHealth.Proofs.Text.Scan
import FleetHealth.Proofs.Time.Calendar
import FleetHealth.Proofs.Time.Instant
import FleetHealth.Proofs.Json.Record
import FleetHealth.Proofs.Object.Shape
import FleetHealth.Proofs.Object.Metadata
import FleetHealth.Proofs.Object.Manifest
