import Multibody.App.Config
import Multibody.Sim.Simulator
import Multibody.Metrics.Basic

/-!
# Sessions

A session is one configured world and its simulator: the engine with the
chosen integrator, the bodies as items, a controller on every moving body
with joints when one is chosen, and a sphere detector when contacts are on.
Each run installs the default metrics of every moving body and the rotor
thrust of active drones as hooks.  A driver may add chores (type `κ`) and
state (type `ω`) of its own.
-/

namespace Multibody.App

open Sim

/-- What a session's hooks do; `κ` are a driver's own chores. -/
inductive Chore (κ : Type) where
  /-- one observation of a metric set -/
  | metrics (set : Nat)
  /-- the rotor thrust of every active drone -/
  | rotors
  | extra (k : κ)

instance {κ : Type} : Inhabited (Chore κ) := ⟨.rotors⟩

/-- Metrics watching one body item during a run, through a hook. -/
structure MetricSet where
  item : Nat
  name : String
  hook : Nat
  metrics : Array Metric
  deriving Inhabited

/-- What a session keeps beside its simulator: the metric sets of the
current run, the rotor hooks it registered, and a driver's state. -/
structure Crew (ω : Type) where
  sets : Array MetricSet := #[]
  rotorHooks : Array Nat := #[]
  own : ω
  deriving Inhabited

/-- A session's simulator with its world and its crew. -/
abbrev Rig (κ ω : Type) := Lab (Chore κ) (Crew ω)

/-- How a driver takes part in a session's runs. -/
structure Extension (κ ω : Type) where
  hook : Nat → κ → Rig κ ω → Rig κ ω × Option String := fun _ _ rig => (rig, none)
  event : Event → Rig κ ω → Rig κ ω := fun _ rig => rig

namespace Rig

variable {κ ω : Type}

/-- The rig with a changed crew. -/
def modifyCrew (rig : Rig κ ω) (f : Crew ω → Crew ω) : Rig κ ω := { rig with session := f rig.session }

/-- One observation of a metric set, when its item takes part in the run. -/
def observeSet (rig : Rig κ ω) (k : Nat) : Rig κ ω × Option String := Id.run do
  let some set := rig.session.sets[k]? | return (rig, none)
  let some sbk := rig.sim.run.bind (·.bodyOf? set.item) | return (rig, none)
  let b := (rig.run.bodies.getD sbk default).body
  let mut a := rig.assembly
  let mut ms : Array Metric := #[]
  for m in set.metrics do
    match m.observe a b with
    | .ok (a', m') =>
      a := a'
      ms := ms.push m'
    | .error f => return (rig.withAssembly a, some f.message)
  let rig := rig.withAssembly a
  return (Rig.modifyCrew rig fun c => { c with sets := c.sets.modify k fun st => { st with metrics := ms } }, none)

/-- Adds the rotor thrust of every active drone. -/
def applyRotors (rig : Rig κ ω) : Rig κ ω :=
  rig.run.active.foldl (fun rig k =>
    let b := (rig.run.bodies.getD k default).body
    if (rig.assembly.body b).modelName == "drone" then rig.withAssembly (rig.assembly.applyRotorThrust b)
    else rig) rig

end Rig

/-- The session's hooks, with a driver's chores and events. -/
def Extension.handlers {κ ω : Type} (x : Extension κ ω) : Handlers (Chore κ) (Crew ω) :=
  { hook := fun id c rig =>
      match c with
      | .metrics k => Rig.observeSet rig k
      | .rotors => (Rig.applyRotors rig, none)
      | .extra e => x.hook id e rig,
    event := x.event }

/-- How a run ended: the last frame and its time, and the failure of an
abnormal end. -/
structure Finish where
  frame : Int
  time : Float
  abnormal : Bool
  error : Option String
  deriving Inhabited

/-- A configured world with its simulator. -/
structure Session (κ ω : Type) where
  cfg : AppConfig
  rig : Rig κ ω

/-- A number of steps that covers a run: the steps of its length and some
to spare, or a generous bound for a run without a set length. -/
def stepBound (cfg : AppConfig) : Nat :=
  let dt := cfg.sim.timeStep
  match cfg.sim.timeRange with
  | .specified | .timeline =>
    if dt > 0.0 then (cfg.sim.timeLength / dt).toUInt64.toNat + 16 else 16
  | _ => 1000000

namespace Session

variable {κ ω : Type}

/-- Builds the session of settings, reporting to a meter and a tracer when
given; `own` is the driver's initial state. -/
def create (cfg : AppConfig) (meter : Option Observe.Meter) (tracer : Option Observe.Tracer) (own : ω) :
    Except String (Session κ ω) := do
  let some integ := Integrator.ofName? cfg.integrator
    | throw ("backend: " ++ Integrator.unknownMessage cfg.integrator)
  let engine : Dynamics.JointSpace :=
    { integrator := integ, contacts := cfg.contacts, stiffness := Dynamics.defaultStiffness }
  let some (a, bodies) := Assembly.buildModel {} cfg.world cfg.model
    | throw (Assembly.unknownModelMessage cfg.world)
  let law? ← if cfg.controller == "none" then pure none
    else match Control.Law.ofName? cfg.controller cfg.controlParams with
      | some l => pure (some l)
      | none => throw (Control.unknownMessage cfg.controller)
  let mut items : Array BodyItem := #[]
  let mut controllers : Array Control.Controller := #[]
  let mut world : World := { name := cfg.world }
  if cfg.sim.timeRange == .timeline then
    world := { world with timeline := { world.timeline with begin := 0.0, «end» := cfg.sim.timeLength } }
  for b in bodies do
    let mut bi : BodyItem := { name := (a.body b).name, master := b }
    if let some law := law? then
      if !a.isStaticModel b && !(a.body b).joints.isEmpty then
        bi := { bi with controllers := #[⟨controllers.size, true⟩] }
        controllers := controllers.push (Control.Controller.ofLaw law)
    items := items.push bi
    world ← world.addBody items (items.size - 1)
  let sim : Simulator (Chore κ) :=
    { Simulator.create (some { engine := engine }) cfg.sim with
      hasWorld := true, meter := meter, tracer := tracer,
      source := if cfg.contacts || cfg.sim.selfCollision then .sphere else .absent }
  return { cfg, rig := { assembly := a, items, controllers, world, sim, session := { own } } }

/-- The session with a changed rig. -/
def modifyRig (s : Session κ ω) (f : Rig κ ω → Rig κ ω) : Session κ ω := { s with rig := f s.rig }

/-- Installs the hooks of the next run: fresh default metrics on every
moving body, then the rotor hook. -/
def prepare (s : Session κ ω) : Session κ ω := Id.run do
  let mut rig := Rig.modifyCrew s.rig fun c => { c with sets := #[], rotorHooks := #[] }
  for i in rig.world.bodies do
    let bi := rig.items.getD i default
    if !rig.assembly.isStaticModel bi.master then
      let k := rig.session.sets.size
      let g := rig.gravity
      let (rig', id) := rig.addHook .post (.metrics k)
      rig := Rig.modifyCrew rig' fun c =>
        { c with sets := c.sets.push { item := i, name := bi.name, hook := id,
                                       metrics := (Metric.defaults g).toArray } }
  let (rig', id) := rig.addHook .mid .rotors
  rig := Rig.modifyCrew rig' fun c => { c with rotorHooks := c.rotorHooks.push id }
  return { s with rig }

/-- Withdraws the hooks `prepare` installed. -/
def unprepare (s : Session κ ω) : Session κ ω := Id.run do
  let mut rig := s.rig
  for set in rig.session.sets do
    rig := rig.removeHook .post set.hook
  for id in rig.session.rotorHooks do
    rig := rig.removeHook .mid id
  return { s with rig := Rig.modifyCrew rig fun c => { c with sets := #[], rotorHooks := #[] } }

/-- Prepares and carries out a fresh run, or answers why it cannot start. -/
def start (x : Extension κ ω) (s : Session κ ω) : Session κ ω × Option String :=
  let s := s.prepare
  match Lab.start x.handlers (stepBound s.cfg) true s.rig with
  | (rig, some f) => ({ s with rig }.unprepare, some f.message)
  | (rig, none) => ({ s with rig }, none)

/-- How the last run ended. -/
def finish (s : Session κ ω) : Finish :=
  let f := s.rig.sim.lastFinish
  { frame := f.frame, time := f.time, abnormal := f.abnormal, error := f.err.map (·.message) }

/-- The metrics of the last run by name, sorted. -/
def metricValues (s : Session κ ω) : List (String × Float) :=
  let sets := s.rig.session.sets
  let named := sets.toList.flatMap fun set =>
    set.metrics.toList.map fun m =>
      (if sets.size > 1 then set.name ++ "." ++ m.name else m.name, m.value)
  named.mergeSort fun a b => decide (a.1 ≤ b.1)

end Session

end Multibody.App
