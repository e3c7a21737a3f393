import Multibody.Api.Settings
import Multibody.Api.BodyOps
import Multibody.Sim.Simulator
import Multibody.Models.Build
import Multibody.Sim.Archive

/-!
# Driving a simulator by script

A `simulate` request drives a simulator with actions: perturbations, run
control, settings, inspections and edits of the live bodies, and counters
kept by hooks of their own.  Actions run from hooks at the frames they name
(or at every call), or before a run.  Whatever an action reports is captured
with the current frame; the events the simulator announces are recorded in
order, and a held run is resumed (or stopped) as soon as it is announced.
-/

namespace Multibody.Api

open Sim

/-- What an action does. -/
inductive Command where
  /-- a force on a link, at a point of it, for a duration (zero: until cleared) -/
  | force (link : Option Int) (point force : Vec3) (duration : Float)
  | clearForces
  /-- a virtual elastic string from a point of a link to a world goal -/
  | elastic (link : Option Int) (attach goal : Vec3)
  | clearStrings
  /-- the root held at a pose -/
  | forced (pose : Mat4)
  | clearForced
  | isForced
  /-- the simulation body taking part in the dynamics or not -/
  | activate (on : Bool)
  | stop
  | pause
  | restart
  /-- the hook running the action breaks down -/
  | breakDown
  | start (reset : Bool)
  | setTimeStep (dt : Float)
  | setConfig (patch : ConfigPatch)
  | restore (text : String)
  | capture
  | collisions
  | bodies
  | findByName (name : String)
  | cloneMap
  | state
  | thrust (value : Float)
  | device (index : Int) (on : Option Bool) (values : Option (Array Float)) (notify : Bool)
  | setJoint (joint : Int) (q dq u : Option Float)
  | setControl (u : Array Float)
  | detachControllers
  | addCounter (name : String) (phase : Phase)
  | removeCounter (name : String)
  | removeHook (phase : Phase) (id : Int)
  | counters
  deriving Inhabited

/-- An action: its name, what it does, the body item it concerns, and when
it runs, at one frame or at every call of its hook. -/
structure Action where
  label : String
  command : Command
  item : Option Nat := none
  frame? : Option Int := none
  every : Bool := false
  phase : Phase := .pre
  deriving Inhabited

/-- What a hook of the script does. -/
inductive Task where
  /-- the actions due at the current frame, in order -/
  | actions (list : List Action)
  /-- the rotor thrust of every active drone -/
  | rotors
  /-- counts the steps of a run and stops it at the limit -/
  | stepLimit (limit : Nat)
  | counter (name : String)
  /-- one observation of a metric set -/
  | metrics (set : Nat)
  deriving Inhabited

/-- Metrics observing one body item through a hook. -/
structure MetricSet where
  item : Nat
  hook : Nat
  metrics : Array Metric
  deriving Inhabited

/-- What the script records while it drives the simulator. -/
structure Session where
  captures : Array Json := #[]
  events : Array Json := #[]
  counters : Array (String × Nat) := #[]
  /-- the hooks of each counter, newest last -/
  counterHooks : Array (String × Phase × Nat) := #[]
  steps : Nat := 0
  sets : Array MetricSet := #[]
  stopOnPause : Bool := false
  deriving Inhabited

/-- A simulator with its world, driven by a script. -/
abbrev Stage := Lab Task Session

namespace Stage

/-- The stage with a changed session. -/
def modifySession (lab : Stage) (f : Session → Session) : Stage := { lab with session := f lab.session }

/-- Captures a value reported by an action, at the current frame. -/
def record (lab : Stage) (label : String) (value : Json) : Stage :=
  let entry : Json := .obj [("frame", .int lab.sim.currentFrame), ("do", .str label), ("value", value)]
  modifySession lab fun s => { s with captures := s.captures.push entry }

/-- The simulation body of an item in the current run. -/
def simBody? (lab : Stage) (item : Option Nat) : Option Nat :=
  item.bind fun i => lab.sim.run.bind (·.bodyOf? i)

/-- The name of a simulation body. -/
def bodyName (lab : Stage) (k : Nat) : String :=
  (lab.assembly.body (lab.run.bodies.getD k default).body).name

/-- The simulation bodies of the current run: names, activity, controllers,
and whether looking a body up by its name finds it. -/
def bodiesJson (lab : Stage) : Json :=
  let r := lab.run
  .arr ((List.range r.bodies.size).map fun k =>
    let sb := r.bodies[k]!
    let name := bodyName lab k
    .obj [("name", .str name), ("active", .bool sb.active), ("controllers", .int sb.slots.size),
      ("found_by_name", .bool (lab.findBodyByName? name == some k)),
      ("controller_names", Json.ofStrings (sb.slots.toList.map fun s =>
        (lab.controllers.getD s.controller default).name)),
      ("controller_oob", .bool true), ("links_back", .bool true)])

/-- A live body: joint states, root transform and rates, external loads per
link, activity, the current time and the devices. -/
def liveJson (lab : Stage) (k : Nat) : Json :=
  let a := lab.assembly
  let sb := lab.run.bodies.getD k default
  let bd := a.body sb.body
  let root := (bd.root.map a.link).getD default
  .obj [("joints", .arr (bd.joints.toList.map fun j =>
      let s := (a.link j).joint
      Json.ofFloats [s.q, s.dq, s.ddq, s.u])),
    ("root", mat4Json root.pose), ("v", vec3Json root.v), ("w", vec3Json root.w),
    ("ext", .arr (bd.links.toList.map fun l =>
      let lk := a.link l
      .arr [vec3Json lk.extForce, vec3Json lk.extTorque])),
    ("active", .bool sb.active), ("time", .num lab.currentTime),
    ("devices", .arr (bd.devices.toList.map deviceJson))]

/-- The simulator's state, frame, time and time step. -/
def stateJson (lab : Stage) : Json :=
  let st := lab.sim.state
  .obj [("state", .str st.name), ("running", .bool (st != .idle)), ("pausing", .bool (st == .paused)),
    ("active", .bool (st == .running)), ("frame", .int lab.sim.currentFrame),
    ("time", .num lab.currentTime), ("time_step", .num lab.sim.cfg.timeStep)]

/-- The counters by name. -/
def countersJson (lab : Stage) : Json :=
  .obj (lab.session.counters.toList.map fun (n, c) => (n, .int c))

/-- A link of an item's master body, by index: the given one when the body
has it, else none. -/
def masterLink (lab : Stage) (item : Nat) (link : Option Int) : Option Int :=
  let bd := lab.assembly.body (lab.items.getD item default).master
  match link with
  | some i => if 0 ≤ i ∧ i < bd.links.size then some i else none
  | none => none

/-- Adds one to a counter. -/
def bump (cs : Array (String × Nat)) (name : String) : Array (String × Nat) :=
  cs.map fun (n, c) => if n == name then (n, c + 1) else (n, c)

/-- Changes the live clone of an item, if it takes part in the run. -/
def onLive (lab : Stage) (item : Option Nat) (f : Assembly → BodyId → Assembly) : Stage :=
  match simBody? lab item with
  | some k => lab.withAssembly (f lab.assembly (lab.run.bodies.getD k default).body)
  | none => lab

/-- Changes one device of a body. -/
def setDevice (a : Assembly) (b : BodyId) (index : Int) (on : Option Bool)
    (values : Option (Array Float)) : Assembly :=
  if index < 0 then a
  else a.modifyBody b fun bd =>
    { bd with devices := bd.devices.modify index.toNat fun d =>
      { d with on := on.getD d.on, values := values.getD d.values } }

/-- Changes the state of one joint of a body. -/
def setJoint (a : Assembly) (b : BodyId) (joint : Int) (q dq u : Option Float) : Assembly :=
  match a.jointAt? b joint with
  | some l => a.modifyLink l fun lk => { lk with joint :=
      { lk.joint with q := q.getD lk.joint.q, dq := dq.getD lk.joint.dq, u := u.getD lk.joint.u } }
  | none => a

/-- Runs one action; a breakdown comes with its message. -/
def perform (act : Action) (lab : Stage) : Stage × Option String :=
  let item := act.item
  let it := item.getD 0
  let report (lab : Stage) (v : Json) : Stage × Option String := (record lab act.label v, none)
  match act.command with
  | .force link point force duration =>
    (lab.setExternalForce it (masterLink lab it link) point force duration, none)
  | .clearForces => (lab.clearExternalForces, none)
  | .elastic link attach goal => (lab.setElasticString it (masterLink lab it link) attach goal, none)
  | .clearStrings => (lab.clearElasticStrings, none)
  | .forced pose => (lab.setForcedPose it pose, none)
  | .clearForced => (lab.clearForcedPoses, none)
  | .isForced => report lab (.bool (lab.sim.perturb.isForced it))
  | .activate on =>
    match simBody? lab item with
    | some k => (lab.setActive k on, none)
    | none => report lab (.str "no simulation body")
  | .stop => (lab.requestStop, none)
  | .pause =>
    let (lab, e) := lab.pause
    report lab (failureJson e)
  | .restart =>
    let (lab, e) := lab.restart
    report lab (failureJson e)
  | .breakDown => (lab, some "action panic")
  | .start _ =>
    report lab (if lab.sim.run.isSome then .str Condition.alreadyRunning.message else .null)
  | .setTimeStep dt =>
    let (lab, e) := lab.setTimeStep dt
    report lab (failureJson e)
  | .setConfig p =>
    let (lab, e) := lab.setConfig (p.apply lab.sim.cfg)
    report lab (failureJson e)
  | .restore text =>
    if lab.sim.run.isSome then report lab (.str ("restore: " ++ Condition.alreadyRunning.message))
    else match Archive.ofYaml text with
      | .error e => report lab (.str e)
      | .ok a =>
        let (lab, e) := lab.restore a
        report lab (failureJson e)
  | .capture =>
    report lab (match simBody? lab item with
      | some k => liveJson lab k
      | none => .null)
  | .collisions => report lab (.arr (lab.run.collisions.toList.map (linkPairJson lab.assembly)))
  | .bodies => report lab (bodiesJson lab)
  | .findByName name =>
    report lab (match lab.findBodyByName? name with
      | some k => .str (bodyName lab k)
      | none => .null)
  | .cloneMap =>
    report lab (match lab.sim.run with
      | some r => .int r.cloneMap.size
      | none => .null)
  | .state => report lab (stateJson lab)
  | .thrust v => (onLive lab item fun a b => a.setThrust b v, none)
  | .device index on values notify =>
    let lab := onLive lab item fun a b => setDevice a b index on values
    match simBody? lab item with
    | some k => (if notify then lab.notifyDeviceChange k index else lab, none)
    | none => (lab, none)
  | .setJoint j q dq u => (onLive lab item fun a b => setJoint a b j q dq u, none)
  | .setControl u =>
    let atts := (lab.items.getD it default).controllers
    (atts.foldl (fun lab att =>
      { lab with controllers := lab.controllers.modify att.controller (·.setRequested u) }) lab, none)
  | .detachControllers => (lab.modifyItem it fun bi => { bi with controllers := #[] }, none)
  | .addCounter name phase =>
    let lab := modifySession lab fun s =>
      if s.counters.any (·.1 == name) then s else { s with counters := s.counters.push (name, 0) }
    let (lab, id) := lab.addHook phase (.counter name)
    (modifySession lab fun s => { s with counterHooks := s.counterHooks.push (name, phase, id) }, none)
  | .removeCounter name =>
    let hs := lab.session.counterHooks
    match (List.range hs.size).reverse.find? (fun i => hs[i]!.1 == name) with
    | some i =>
      let (_, phase, id) := hs[i]!
      let lab := modifySession lab fun s => { s with counterHooks := s.counterHooks.eraseIdxIfInBounds i }
      (lab.removeHook phase id, none)
    | none => (lab, none)
  | .removeHook phase id => (if id < 0 then lab else lab.removeHook phase id.toNat, none)
  | .counters => report lab (countersJson lab)

/-- Runs the actions due at the current frame, in order, until one breaks
down. -/
def performDue : List Action → Stage → Stage × Option String
  | [], lab => (lab, none)
  | act :: rest, lab =>
    if act.every || act.frame? == some lab.sim.currentFrame then
      match perform act lab with
      | (lab, some e) => (lab, some e)
      | (lab, none) => performDue rest lab
    else performDue rest lab

/-- Runs actions outside a run, all of them. -/
def performAll (acts : List Action) (lab : Stage) : Stage :=
  acts.foldl (fun lab act => (perform act lab).1) lab

/-- One observation of a metric set, when its item takes part in the run. -/
def observeSet (lab : Stage) (k : Nat) : Stage × Option String := Id.run do
  let some set := lab.session.sets[k]? | return (lab, none)
  let some sbk := simBody? lab (some set.item) | return (lab, none)
  let b := (lab.run.bodies.getD sbk default).body
  let mut a := lab.assembly
  let mut ms : Array Metric := #[]
  for m in set.metrics do
    match m.observe a b with
    | .ok (a', m') =>
      a := a'
      ms := ms.push m'
    | .error f => return (lab.withAssembly a, some f.message)
  let lab := lab.withAssembly a
  return (modifySession lab fun s => { s with sets := s.sets.modify k fun st => { st with metrics := ms } },
    none)

/-- Adds the rotor thrust of every active drone. -/
def applyRotors (lab : Stage) : Stage :=
  lab.run.active.foldl (fun lab k =>
    let b := (lab.run.bodies.getD k default).body
    if (lab.assembly.body b).modelName == "drone" then lab.withAssembly (lab.assembly.applyRotorThrust b)
    else lab) lab

/-- Runs a hook task. -/
def runTask (_id : Nat) (task : Task) (lab : Stage) : Stage × Option String :=
  match task with
  | .actions list => performDue list lab
  | .rotors => (applyRotors lab, none)
  | .stepLimit limit =>
    let lab := modifySession lab fun s => { s with steps := s.steps + 1 }
    (if lab.session.steps == limit then lab.requestStop else lab, none)
  | .counter name => (modifySession lab fun s => { s with counters := bump s.counters name }, none)
  | .metrics k => observeSet lab k

/-- Records an event; a held run is resumed at once, or stopped when the
script says so. -/
def observe (ev : Event) (lab : Stage) : Stage :=
  let base : List (String × Json) :=
    [("kind", .str ev.kind.name), ("frame", .int ev.frame), ("time", .num ev.time)]
  let push (lab : Stage) (extra : List (String × Json)) : Stage :=
    modifySession lab fun s => { s with events := s.events.push (.obj (base ++ extra)) }
  match ev.kind with
  | .started => push lab [("bodies", bodiesJson lab)]
  | .finished =>
    push lab [("abnormal", .bool ev.finish.abnormal), ("error", failureJson ev.finish.err)]
  | .bodyListUpdated => push lab [("active", Json.ofStrings (ev.active.toList.map (bodyName lab)))]
  | .paused =>
    if lab.session.stopOnPause then push lab.requestStop []
    else
      let (lab, e) := lab.restart
      push lab [("restart", failureJson e)]
  | .resumed => push lab []

/-- How the script takes part in runs. -/
def handlers : Handlers Task Session := { hook := runTask, event := observe }

end Stage

end Multibody.Api
