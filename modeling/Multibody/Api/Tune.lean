import Multibody.Api.Session
import Multibody.Api.Grid
import Multibody.Api.ControlOps

/-!
# Tuning by grid search

The `tune` request scores every point of a parameter grid by a simulation:
the point's values override the model and controller parameters, the world
is built afresh, the controller drives every moving body with joints, and
the default metrics watch the first moving body.  Points are simulated in
order; the first that cannot start or ends abnormally fails the search.
The best point has the lowest score.
-/

namespace Multibody.Api

open Sim

/-- What a tuning request fixes for every point. -/
structure TuneSpec where
  world : String
  model : ModelParams
  controller : String
  control : Control.Params
  metric : String
  timeLength : Float
  timeStep : Float
  integrator : String

/-- The model and controller parameters at a grid point. -/
def TuneSpec.at (spec : TuneSpec) (p : Tuning.Point) : ModelParams × Control.Params :=
  let get (n : String) (d : Float) : Float := (p.lookup n).getD d
  ({ spec.model with theta := get "theta" spec.model.theta, mass := get "mass" spec.model.mass,
                     length := get "length" spec.model.length,
                     damping := get "damping" spec.model.damping },
   { spec.control with kp := get "kp" spec.control.kp, ki := get "ki" spec.control.ki,
                       kd := get "kd" spec.control.kd, target := get "target" spec.control.target })

/-- A number of steps that covers a run of `length` seconds at `dt`. -/
def stepsFor (length dt : Float) : Nat :=
  if dt > 0.0 then (length / dt).toUInt64.toNat + 16 else 16

/-- Simulates one grid point: its score (NaN without one), or the message
that fails the search. -/
def tunePoint (spec : TuneSpec) (p : Tuning.Point) : Except String Float := do
  let (mp, cp) := spec.at p
  let some (a, bodies) := Assembly.buildModel {} spec.world mp
    | throw (Assembly.unknownModelMessage spec.world)
  let law? ← if spec.controller == "none" then pure none
    else match Control.Law.ofName? spec.controller cp with
      | some l => pure (some l)
      | none => throw (Control.unknownMessage spec.controller)
  let some integ := Integrator.ofName? spec.integrator
    | throw ("backend: " ++ Integrator.unknownMessage spec.integrator)
  let mut items : Array BodyItem := #[]
  let mut controllers : Array Control.Controller := #[]
  for b in bodies do
    let mut bi : BodyItem := { name := (a.body b).name, master := b }
    if let some law := law? then
      if !a.isStaticModel b && !(a.body b).joints.isEmpty then
        bi := { bi with controllers := #[⟨controllers.size, true⟩] }
        controllers := controllers.push (Control.Controller.ofLaw law)
    items := items.push bi
  let cfg : Config := { timeRange := .specified, timeLength := spec.timeLength,
                        timeStep := spec.timeStep, recording := .off }
  let sim : Simulator Task :=
    { Simulator.create (some { engine := { integrator := integ } }) cfg with hasWorld := true }
  let world : World := { name := "tune", bodies := (List.range items.size).toArray }
  let mut lab : Stage :=
    { assembly := a, items := items, controllers := controllers, world := world, sim := sim,
      session := {} }
  let watched := (List.range items.size).find? fun i => !a.isStaticModel items[i]!.master
  if let some i := watched then
    let g := lab.gravity
    let (lab', id) := lab.addHook .post (.metrics 0)
    lab := Stage.modifySession lab' fun s =>
      { s with sets := #[{ item := i, hook := id, metrics := (Metric.defaults g).toArray }] }
  let (done, err) := Lab.start Stage.handlers (stepsFor spec.timeLength spec.timeStep) true lab
  if let some f := err then throw f.message
  let fin := done.sim.lastFinish
  if fin.abnormal then throw ((fin.err.map (·.message)).getD "")
  let nan : Float := 0.0 / 0.0
  return match done.session.sets[0]? with
    | some set => ((set.metrics.find? (·.name == spec.metric)).map (·.value)).getD nan
    | none => nan

/-- Scores the points in order, stopping at the first failure. -/
def tunePoints (spec : TuneSpec) (pts : List Tuning.Point) : Except String (List Float) :=
  (pts.zip (List.range pts.length)).mapM fun (p, i) =>
    match tunePoint spec p with
    | .ok s => .ok s
    | .error e => .error ("ensemble member " ++ toString i ++ ": " ++ e)

/-- The `tune` request. -/
def tuneAnswer (req : Json) : Reply Json := do
  let names ← (list req "names").mapM fun n =>
    match n with
    | .str s => Except.ok s
    | _ => .error (badInput "field names: not a string")
  let ranges ← (list req "ranges").mapM fun r => do
    let xs ← floatsOf "ranges" r
    pure xs.toList
  let spec : TuneSpec :=
    { world := ← str req "world" "pendulum", model := ← modelParamsOf (object req "params"),
      controller := ← str req "controller" "none", control := ← paramsOf (object req "controller_params"),
      metric := ← str req "metric" "energy", timeLength := ← float req "time_length" 0.05,
      timeStep := ← float req "time_step" 0.001, integrator := ← str req "integrator" "rk4" }
  if names.length != ranges.length then
    throw (failure "tune" ("optim: " ++ toString names.length ++ " parameters but " ++
      toString ranges.length ++ " ranges"))
  let pts := Tuning.points names ranges
  let scores ← match tunePoints spec pts with
    | .ok s => pure s
    | .error e => throw (failure "tune" e)
  let some (params, score) := Tuning.search pts scores
    | throw (failure "tune" "optim: no grid point produced a score")
  return .obj [("params", pointJson params), ("score", .num score),
    ("points", .arr (pts.map pointJson)), ("scores", Json.ofFloats scores),
    ("ranked", .arr ((Tuning.ranked scores).map fun i => Json.int (Int.ofNat i)))]

end Multibody.Api
