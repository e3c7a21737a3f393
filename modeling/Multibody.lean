import Multibody.Decimal.Binary64
import Multibody.Decimal.Shortest
import Multibody.Decimal.Format
import Multibody.Decimal.Read
import Multibody.Json.Basic
import Multibody.Json.Read
import Multibody.Json.Write
import Multibody.Numeric.Circular
import Multibody.Geometry.Vec3
import Multibody.Geometry.Mat3
import Multibody.Geometry.Mat4
import Multibody.Geometry.Quat
import Multibody.Fault
import Multibody.Dynamics.Integrator
import Multibody.Models.Pendulum
import Multibody.Api.Fields
import Multibody.Api.Ode
import Multibody.Api.Respond
import Multibody.Body.Link
import Multibody.Body.Assembly
import Multibody.Body.Clone
import Multibody.Body.Snapshot
import Multibody.Models.Build
import Multibody.Numeric.Extremum
import Multibody.Collision.Sphere
import Multibody.Metrics.Basic
import Multibody.Api.World
import Multibody.Api.Dump
import Multibody.Api.Slot
import Multibody.Api.BodyOps
import Multibody.Text.Case
import Multibody.Text.Blank
import Multibody.Control.Options
import Multibody.Failure
import Multibody.Control.Controller
import Multibody.Api.ControlOps
import Multibody.Dynamics.JointSpace
import Multibody.Text.Duration
import Multibody.Text.Printable
import Multibody.Text.Quoted
import Multibody.Sim.Config
import Multibody.Dynamics.Backend
import Multibody.Sim.Item
import Multibody.Sim.Hooks
import Multibody.Sim.Perturbation
import Multibody.Sim.Run
import Multibody.Sim.Simulator
import Multibody.Api.Settings
import Multibody.Api.Session
import Multibody.Api.Simulate
import Multibody.App.Config
import Multibody.Api.Registry
import Multibody.Tuning.Grid
import Multibody.Api.Grid
import Multibody.Api.Tune
import Multibody.Yaml.Scanner
import Multibody.Yaml.Parser
import Multibody.Yaml.Resolve
import Multibody.Yaml.Decode
import Multibody.Yaml.Emit
import Multibody.Yaml.Encode
import Multibody.Sim.Archive
import Multibody.Api.SimConfig
import Multibody.App.ConfigText
import Multibody.Api.AppConfig
import Multibody.App.Scenario
import Multibody.Api.Scenario
import Multibody.Analysis.Spectrum
import Multibody.Analysis.Portrait
import Multibody.Api.Analysis
import Multibody.Analysis.Svg
import Multibody.Api.Svg
import Multibody.Api.Items
import Multibody.Store.Files
import Multibody.Store.Csv
import Multibody.Store.Instant
import Multibody.Json.Strict
import Multibody.Store.Metadata
import Multibody.Store.Runs
import Multibody.Api.Storage
import Multibody.Log.Console
import Multibody.Api.Logging
import Multibody.Text.Uuid
import Multibody.Observe.Registry
import Multibody.Observe.Meter
import Multibody.Observe.Trace
import Multibody.CommandLine.Flags
import Multibody.CommandLine.Command
import Multibody.App.Load
import Multibody.App.Session
import Multibody.App.Program
import Multibody.Api.Collector
import Multibody.App.Tracing
import Multibody.Api.Tracing
import Multibody.App.Shell
import Multibody.Text.Table
import Multibody.Text.Plot
import Multibody.App.Experiments
import Multibody.App.Inspection
import Multibody.App.Execute
import Multibody.Api.Cli
import Multibody.Monitor.Canvas
import Multibody.Monitor.Model
import Multibody.Api.Monitor
import Multibody.Main
import Multibody.Proofs.Loops
import Multibody.Proofs.Recording.Contract
import Multibody.Proofs.Lifecycle.FailedStart
import Multibody.Proofs.Body.Restore
import Multibody.Proofs.Schedule.Erase
import Multibody.Proofs.Schedule.Pending
import Multibody.Proofs.Schedule.Pauses
import Multibody.Proofs.Body.Tree
import Multibody.Proofs.Body.Copy
import Multibody.Proofs.Hooks.Registry
import Multibody.Proofs.Hooks.Frame
import Multibody.Proofs.Hooks.Calls
import Multibody.Proofs.Lifecycle.Trail
import Multibody.Proofs.Lifecycle.Protocol
import Multibody.Proofs.Lifecycle.Published
import Multibody.Proofs.Body.Kinematics
import Multibody.Proofs.Dynamics.Pass
import Multibody.Proofs.Body.Mounting
import Multibody.Proofs.Body.RoundTrip
import Multibody.Proofs.Body.Cloning
import Multibody.Proofs.Models.PowerBalance
import Multibody.Proofs.Dynamics.Elimination
import Multibody.Proofs.Collision.Spheres
import Multibody.Proofs.Perturbations.Table
import Multibody.Proofs.Schedule.Stages
import Multibody.Proofs.Lifecycle.TimeRange
import Multibody.Proofs.Control.Calls
import Multibody.Proofs.Control.Failures
import Multibody.Proofs.Control.Lifetime
import Multibody.Proofs.Perturbations.Forced
import Multibody.Proofs.Perturbations.Step
import Multibody.Proofs.Perturbations.Run
import Multibody.Proofs.Decimal.Words
import Multibody.Proofs.Decimal.Nearest
import Multibody.Proofs.Decimal.ReadBack
import Multibody.Proofs.Decimal.RoundTrip
import Multibody.Proofs.Store.PlainRecords
import Multibody.Proofs.Store.Tracks
import Multibody.Proofs.Dynamics.Integration
import Multibody.Proofs.Dynamics.JointStep
import Multibody.Proofs.Decimal.Order
import Multibody.Proofs.Tuning.Search
import Multibody.Proofs.Analysis.Transform
import Multibody.Proofs.Analysis.Frequency
import Multibody.Proofs.Analysis.Portrait
import Multibody.Proofs.App.Layering
import Multibody.Proofs.Decimal.Whole
import Multibody.Proofs.Schedule.RunView
import Multibody.Proofs.Lifecycle.Activity
import Multibody.Proofs.Recording.Devices
import Multibody.Proofs.Metrics.Observe
import Multibody.Proofs.Text.Duration
import Multibody.Proofs.Settings.Archive
import Multibody.Proofs.Lifecycle.StateGauge
import Multibody.Proofs.Monitor.Drawing
import Multibody.Proofs.Monitor.Grid
import Multibody.Proofs.Dynamics.Contacts
import Multibody.Proofs.Dynamics.Equations
