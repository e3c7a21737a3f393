import Multibody.Sim.Config
import Multibody.Models.Build
import Multibody.Control.Controller
import Multibody.Dynamics.Integrator

/-!
# Application settings

What a command-line session runs: the world and its model parameters, the
integrator, the controller and its gains, whether contacts act, the
simulator's settings, and the logging, metrics and tracing set-up.  Named
presets give ready-made settings per world; a preset's model parameters
replace the default ones as a whole.
-/

namespace Multibody.App

/-- The gains and timing of the session's controller. -/
structure ControllerSettings where
  kp : Float := 0.0
  ki : Float := 0.0
  kd : Float := 0.0
  target : Float := 0.0
  duration : Float := 0.0
  deriving Inhabited

/-- Where and how log records are written. -/
structure LogSettings where
  level : String := "info"
  format : String := "console"
  deriving Inhabited

/-- Whether spans are exported, where, under which service name, and which
fraction of traces is kept. -/
structure TracingSettings where
  enabled : Bool := false
  output : String := ""
  serviceName : String := "dynsim"
  sampleRatio : Float := 1.0
  deriving Inhabited

/-- The settings of a session. -/
structure AppConfig where
  world : String := "pendulum"
  model : ModelParams := { theta := 0.5, theta2 := 0.5 }
  integrator : String := "rk4"
  controller : String := "none"
  controllerParams : ControllerSettings := { kp := 10.0, ki := 0.1, kd := 5.0 }
  contacts : Bool := false
  sim : Sim.Config := { timeRange := .specified, timeLength := 10.0 }
  logging : LogSettings := {}
  metricsAddr : String := ""
  tracing : TracingSettings := {}
  dataDir : String := "runs"
  deriving Inhabited

/-- The message of a sample ratio outside `[0, 1]`. -/
def TracingSettings.problem? (t : TracingSettings) : Option Failure :=
  if t.sampleRatio < 0.0 || t.sampleRatio > 1.0 then
    some (.note ("tracing sample ratio " ++ Decimal.general t.sampleRatio ++ " outside [0, 1]"))
  else none

namespace AppConfig

/-- Every problem of the settings: unknown names, then the simulator's and
the tracing settings' own problems. -/
def problems (c : AppConfig) : List Failure :=
  (if Assembly.modelNames.contains c.world then []
   else [.note ("unknown world " ++ Text.quoted c.world)]) ++
  (if (Integrator.ofName? c.integrator).isSome then []
   else [.note (Integrator.unknownMessage c.integrator)]) ++
  (if Control.names.contains c.controller then []
   else [.note ("unknown controller " ++ Text.quoted c.controller)]) ++
  (c.sim.validate.toList) ++
  (c.tracing.problem?.toList)

/-- The settings' failure, or `none` when valid. -/
def validate (c : AppConfig) : Option Failure := Failure.join? c.problems

/-- The controller parameters. -/
def controlParams (c : AppConfig) : Control.Params :=
  { kp := c.controllerParams.kp, ki := c.controllerParams.ki, kd := c.controllerParams.kd,
    target := c.controllerParams.target, duration := c.controllerParams.duration }

end AppConfig

/-- The default settings of a world with model parameters, a fixed time step
and a specified length. -/
def preset (world : String) (model : ModelParams) (dt seconds : Float) : AppConfig :=
  { world := world, model := model,
    sim := { ({} : AppConfig).sim with timeStep := dt, timeRange := .specified, timeLength := seconds } }

/-- The presets of each world, by name in sorted order. -/
def presets : List (String × List (String × AppConfig)) :=
  [("pendulum",
     [("balance", { preset "pendulum" { theta := 0.3 } 0.001 10.0 with
         controller := "pid", controllerParams := { kp := 40.0, ki := 0.5, kd := 8.0 } }),
      ("damped", preset "pendulum" { theta := 1.0, damping := 0.3 } 0.001 30.0),
      ("large", preset "pendulum" { theta := 2.5 } 0.001 20.0),
      ("small", preset "pendulum" { theta := 0.2 } 0.001 20.0)]),
   ("double_pendulum",
     [("chaos", preset "double_pendulum" { theta := 3.0, theta2 := 3.0 } 0.0005 60.0),
      ("gentle", preset "double_pendulum" { theta := 0.3, theta2 := 0.3 } 0.001 30.0),
      ("symmetric", preset "double_pendulum" { theta := 1.5, theta2 := 1.5 } 0.0005 30.0)]),
   ("chain",
     [("swing", preset "chain" { links := 5, theta := 1.0, damping := 0.05 } 0.0005 20.0),
      ("tail",
        let c := preset "chain" { links := 8, theta := 1.2 } 0.0005 120.0
        { c with sim := { c.sim with recording := .tail, tailFrames := 5000 } })]),
   ("drone",
     [("drop", { preset "drone" { height := 3.0 } 0.001 3.0 with contacts := true })]),
   ("balls",
     [("pile", { preset "balls" { count := 5, height := 1.0 } 0.001 5.0 with
         contacts := true, integrator := "symplectic" })])]

/-- The preset names of a world, sorted; `none` for a world without presets. -/
def presetNames? (world : String) : Option (List String) :=
  (presets.lookup world).map fun ps => ps.map (·.1)

/-- A preset by world and name. -/
def preset? (world name : String) : Option AppConfig :=
  (presets.lookup world).bind fun ps => ps.lookup name

end Multibody.App
