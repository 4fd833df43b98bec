import Orchestration.Admission.Capacity
import Orchestration.Admission.Spec
import Orchestration.Admission.State
import Orchestration.Application.Admission
import Orchestration.Application.Lifecycle
import Orchestration.Application.Machine
import Orchestration.Application.Stores
import Orchestration.Collection.SortedMap
import Orchestration.Event
import Orchestration.EventStream
import Orchestration.Identity
import Orchestration.Json.Codec
import Orchestration.Json.Number
import Orchestration.Json.Parser
import Orchestration.Json.Printer
import Orchestration.Json.Value
import Orchestration.Lifecycle.Engine
import Orchestration.Lifecycle.Kind
import Orchestration.LocalService.Admission
import Orchestration.LocalService.Lifecycle
import Orchestration.LocalService.Machine
import Orchestration.LocalService.Stores
import Orchestration.Machine.Actor
import Orchestration.Machine.Blueprint
import Orchestration.Machine.Pass
import Orchestration.Machine.Slot
import Orchestration.Number.Double
import Orchestration.Number.Shortest
import Orchestration.Operation
import Orchestration.Proofs.Admission.Capacity
import Orchestration.Proofs.Admission.Eligible
import Orchestration.Proofs.Admission.HostPath
import Orchestration.Proofs.Admission.Mounts
import Orchestration.Proofs.Admission.Refusal
import Orchestration.Proofs.Admission.SpecRules
import Orchestration.Proofs.Admission.Targets
import Orchestration.Proofs.Application.Canonical
import Orchestration.Proofs.Application.Preparation
import Orchestration.Proofs.Application.Routing
import Orchestration.Proofs.Collection.Lookup
import Orchestration.Proofs.Lifecycle.Destruction
import Orchestration.Proofs.Lifecycle.Evolution
import Orchestration.Proofs.Lifecycle.Recreation
import Orchestration.Proofs.Lifecycle.Run
import Orchestration.Proofs.Lifecycle.Trace
import Orchestration.Proofs.LocalService.CountUpdate
import Orchestration.Proofs.Machine.PassRun
import Orchestration.Proofs.Machine.PollCount
import Orchestration.Proofs.Machine.Rehearsal
import Orchestration.Proofs.Machine.Retry
import Orchestration.Proofs.Machine.Run
import Orchestration.Proofs.Machine.Stop
import Orchestration.Proofs.Machine.Wait
import Orchestration.Proofs.Machine.Wakeup
import Orchestration.Proofs.Store.GroupCoherence
import Orchestration.Proofs.Store.History
import Orchestration.Proofs.Store.InstanceCoherence
import Orchestration.Proofs.Store.LoadCount
import Orchestration.Proofs.Store.RecordCoherence
import Orchestration.Proofs.Store.StaleInstances
import Orchestration.Proofs.Store.TaskAnnouncements
import Orchestration.Proofs.Store.TaskCoherence
import Orchestration.Proofs.Task.Cancellation
import Orchestration.Proofs.Task.Completion
import Orchestration.Proofs.Task.Completions
import Orchestration.Proofs.Task.Handover
import Orchestration.Proofs.Task.Identity
import Orchestration.Proofs.Task.Refresh
import Orchestration.Proofs.Task.Run
import Orchestration.Proofs.Task.SessionContract
import Orchestration.Proofs.Task.SessionRun
import Orchestration.Proofs.Task.Sparing
import Orchestration.Proofs.Task.Zombie
import Orchestration.Proofs.Text.Numeral
import Orchestration.Proofs.Text.Uuid
import Orchestration.Proofs.Time.Rendering
import Orchestration.Proofs.Wire.Allocation
import Orchestration.Proofs.Wire.Document
import Orchestration.Proofs.Wire.Laws
import Orchestration.Proofs.Wire.Operation
import Orchestration.Proofs.Wire.Record
import Orchestration.Proofs.Wire.Spec
import Orchestration.Proofs.Wire.Tolerance
import Orchestration.Record
import Orchestration.Rehearsal.Agenda
import Orchestration.Rehearsal.ApplicationActions
import Orchestration.Rehearsal.Document
import Orchestration.Rehearsal.Jobs
import Orchestration.Rehearsal.Lifecycle
import Orchestration.Rehearsal.LifecycleReport
import Orchestration.Rehearsal.LocalServiceActions
import Orchestration.Rehearsal.Loop
import Orchestration.Rehearsal.Passes
import Orchestration.Rehearsal.Script
import Orchestration.Rehearsal.Tasks
import Orchestration.Rehearsal.TasksReport
import Orchestration.Settings.Document
import Orchestration.Settings.Engine
import Orchestration.Settings.Environment
import Orchestration.Settings.Lenient
import Orchestration.Settings.Load
import Orchestration.Settings.Path
import Orchestration.Settings.Retry
import Orchestration.Spec.Container
import Orchestration.Spec.Deployable
import Orchestration.Spec.Placement
import Orchestration.Spec.Resource
import Orchestration.State
import Orchestration.Store.Cluster
import Orchestration.Store.Gate
import Orchestration.Store.Groups
import Orchestration.Store.Instances
import Orchestration.Store.Leadership
import Orchestration.Store.Records
import Orchestration.Store.Tasks
import Orchestration.Task.Engine
import Orchestration.Task.Session
import Orchestration.Task.Stores
import Orchestration.Text.Blank
import Orchestration.Text.Listing
import Orchestration.Text.Lower
import Orchestration.Text.Numeral
import Orchestration.Text.Uuid
import Orchestration.Time.Date
import Orchestration.Time.Timestamp
import Orchestration.Toml.Key
import Orchestration.Toml.Line
import Orchestration.Toml.Moment
import Orchestration.Toml.Number
import Orchestration.Toml.Parser
import Orchestration.Toml.Quoted
import Orchestration.Toml.Table
import Orchestration.Verdict
