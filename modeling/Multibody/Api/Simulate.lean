import Multibody.Api.Session
import Multibody.Api.ControlOps

/-!
# The simulate request

A `simulate` request builds a world of body items, attaches controllers,
sets up the engine and the simulator, and then carries out its runs one
after another.  Each run registers the script's hooks (actions by phase,
drone rotors, metrics, and a step limit), runs its preparatory actions and
starts; a run that cannot start leaves its hooks to be removed.  The answer
reports every run (how it started and ended, events, captures, counters,
metrics and what each item recorded) and the simulator's final state.
-/

namespace Multibody.Api

open Sim

/-- A phase by name. -/
def phaseOf? : String → Option Phase
  | "pre" => some .pre
  | "mid" => some .mid
  | "post" => some .post
  | _ => none

/-- The body item of a body named in the request. -/
def itemOf (scene : Scene) (name : String) : Reply Nat := do
  let b ← scene.resolve name
  match scene.bodies.findIdx? (· == b) with
  | some i => return i
  | none => throw (badInput ("unknown body \"" ++ name ++ "\""))

/-- What an action does, from its members. -/
def commandOf (label : String) (j : Json) (phase? : Option Phase) : Reply Command := do
  match label with
  | "force" =>
    return .force (← int? j "link") (← vec3 j "point" Vec3.zero) (← vec3 j "force" Vec3.zero)
      (← float j "duration" 0.0)
  | "clear_forces" => return .clearForces
  | "string" => return .elastic (← int? j "link") (← vec3 j "attach" Vec3.zero) (← vec3 j "goal" Vec3.zero)
  | "clear_strings" => return .clearStrings
  | "forced" => return .forced (← transform j "tf")
  | "clear_forced" => return .clearForced
  | "is_forced" => return .isForced
  | "active" => return .activate (← bool j "on" false)
  | "stop" => return .stop
  | "pause" => return .pause
  | "restart" => return .restart
  | "panic" => return .breakDown
  | "start" => return .start (← bool j "reset" false)
  | "set_time_step" => return .setTimeStep (← float j "value" 0.0)
  | "set_config" => return .setConfig (← ConfigPatch.ofJson (object j "config"))
  | "restore" => return .restore (← str j "yaml" "")
  | "capture" => return .capture
  | "collisions" => return .collisions
  | "bodies" => return .bodies
  | "find_by_name" => return .findByName (← str j "name" "")
  | "clone_map" => return .cloneMap
  | "state" => return .state
  | "thrust" => return .thrust (← float j "value" 0.0)
  | "device" =>
    return .device (← int j "index" 0) (← bool? j "on") (← floats? j "values") (← bool j "notify" true)
  | "set_joint" => return .setJoint (← int j "joint" 0) (← float? j "q") (← float? j "dq") (← float? j "u")
  | "set_control" => return .setControl (← floats j "u" #[])
  | "detach_controllers" => return .detachControllers
  | "add_counter" => return .addCounter (← str j "name" "") (phase?.getD .post)
  | "remove_counter" => return .removeCounter (← str j "name" "")
  | "remove_hook_id" => return .removeHook (phase?.getD .pre) (← int j "id" 0)
  | "counters" => return .counters
  | other => throw (badInput ("unknown action " ++ other))

/-- An action from its members. -/
def actionOf (scene : Scene) (j : Json) : Reply Action := do
  let label ← str j "do" ""
  let phase? := (← str? j "phase").bind phaseOf?
  let item ← match ← str? j "body" with
    | some n => some <$> itemOf scene n
    | none => pure none
  return { label := label, command := ← commandOf label j phase?, item := item,
           frame? := ← int? j "at", every := ← bool j "every" false, phase := phase?.getD .pre }

/-- The law of a controller entry: a named law, or a scripted one. -/
def lawOf (j : Json) : Reply Control.Law := do
  let name ← str j "name" ""
  if name == "stub" then
    return .scripted { init := ← bool j "init" true, breaksOnInit := ← bool j "panic_init" false,
                       failAt := ← int j "fail_at" (-1), doneAt := ← int j "done_at" (-1),
                       breakAt := ← int j "panic_at" (-1), effort := ← float j "effort" 0.0 }
  match Control.Law.ofName? name (← paramsOf (object j "params")) with
  | some l => return l
  | none => throw (failure "controller" (Control.unknownMessage name))

/-- The engine of a request, if it asks for one. -/
def backendOf? (req : Json) : Reply (Option Dynamics.Backend) := do
  let some j := req.get? "backend" | return none
  let name ← str j "integrator" "rk4"
  let some integ := Integrator.ofName? name
    | throw (failure "backend" ("backend: " ++ Integrator.unknownMessage name))
  let gravity ← vec3 j "gravity" Dynamics.defaultGravity
  let stiffness ← float? j "contacts"
  let engine : Dynamics.JointSpace :=
    { integrator := integ, gravity := gravity, contacts := stiffness.isSome,
      stiffness := stiffness.getD Dynamics.defaultStiffness }
  let scripted := ["reject", "panic_init", "fail_at", "panic_at"].any j.has
  let script : Option Dynamics.Script ←
    if scripted then
      pure (some { reject := ← bool j "reject" false, breaksOnInit := ← bool j "panic_init" false,
                   failAt := ← int j "fail_at" (-1), breakAt := ← int j "panic_at" (-1) })
    else pure none
  return some { engine := engine, script := script }

/-- Where the simulator gets its collision detector. -/
def detectorOf (name : String) : DetectorSource :=
  match name with
  | "none" => .absent
  | "error" => .failing
  | "nil" => .empty
  | "panic" => .breaking
  | _ => .sphere

/-- One run of the request. -/
structure RunSpec where
  reset : Bool := true
  actions : List Action := []
  rotors : Bool := false
  metrics : Bool := false
  maxSteps : Nat := 2000
  before : List Action := []
  every : Int := 0
  deriving Inhabited

/-- A run from its members. -/
def runSpecOf (scene : Scene) (j : Json) : Reply RunSpec := do
  return { reset := ← bool j "reset" true, actions := ← (list j "actions").mapM (actionOf scene),
           rotors := ← bool j "rotors" false, metrics := ← bool j "metrics" false,
           maxSteps := ← nat j "max_steps" 2000, before := ← (list j "before").mapM (actionOf scene),
           every := ← int j "every" 0 }

/-- Consecutive frame numbers as `[first, last]` runs. -/
def frameRanges (fs : List Int) : List (Int × Int) :=
  (fs.foldl (fun acc f =>
    match acc with
    | (lo, hi) :: rest => if hi + 1 == f then (lo, f) :: rest else (f, f) :: (lo, hi) :: rest
    | [] => [(f, f)]) []).reverse

/-- The indices of recorded frames shown: every `k`-th and the last. -/
def sampled (n k : Nat) : List Nat :=
  (List.range n).filter fun i => i % k == 0 || i + 1 == n

/-- What an item holds after a run: its state and its recording. -/
def itemJson (every : Int) (bi : BodyItem) : Json :=
  let frames := bi.recording.frames
  let n := frames.size
  let k := if every > 0 then every.toNat else max 1 (n / 16)
  .obj [("state", Json.opt snapshotJson bi.state), ("rec_len", .int n),
    ("rec_capacity", .int bi.recording.capacity),
    ("rec_ranges", .arr ((frameRanges (frames.toList.map (·.frame))).map fun (lo, hi) =>
      .arr [.int lo, .int hi])),
    ("recording", .arr ((sampled n k).map fun i => snapshotJson frames[i]!)),
    ("device_frames", .arr ((frames.toList.filter (!·.devices.isEmpty)).map fun s => .int s.frame))]

/-- Carries out one run and answers how it went. -/
def runOnce (spec : RunSpec) (lab : Stage) : Stage × Json := Id.run do
  let mut lab := Stage.modifySession lab fun s => { s with captures := #[], events := #[], steps := 0, sets := #[] }
  let mut hooks : Array (Phase × Nat) := #[]
  for ph in [Phase.pre, .mid, .post] do
    let acts := spec.actions.filter (·.phase == ph)
    if !acts.isEmpty then
      let (lab', id) := lab.addHook ph (.actions acts)
      lab := lab'
      hooks := hooks.push (ph, id)
  if spec.rotors then
    let (lab', id) := lab.addHook .mid .rotors
    lab := lab'
    hooks := hooks.push (.mid, id)
  if spec.metrics then
    for i in lab.world.bodies do
      let bi := lab.items.getD i default
      if !lab.assembly.isStaticModel bi.master then
        let k := lab.session.sets.size
        let g := lab.gravity
        let (lab', id) := lab.addHook .post (.metrics k)
        lab := Stage.modifySession lab' fun s =>
          { s with sets := s.sets.push { item := i, hook := id, metrics := (Metric.defaults g).toArray } }
  let (lab', id) := lab.addHook .post (.stepLimit spec.maxSteps)
  lab := lab'
  hooks := hooks.push (.post, id)
  lab := Stage.performAll spec.before lab
  let (lab', err) := Lab.start Stage.handlers (2 * spec.maxSteps + 100000) spec.reset lab
  lab := lab'
  if err.isSome then
    for (ph, id) in hooks do
      lab := lab.removeHook ph id
    for st in lab.session.sets do
      lab := lab.removeHook .post st.hook
  let s := lab.session
  let outcome : List (String × Json) := match err with
    | some f => [("start_error", .str f.message), ("start_error_kinds", Json.ofStrings (errorKinds f))]
    | none => [("start_error", .null), ("finish", finishKindsJson lab.sim.lastFinish)]
  let metrics := s.sets.toList.map fun st =>
    ((lab.items.getD st.item default).name, .obj (st.metrics.toList.map fun m => (m.name, .num m.value)))
  let bodies := lab.world.bodies.toList.map fun i =>
    let bi := lab.items.getD i default
    (bi.name, itemJson spec.every bi)
  return (lab, .obj (outcome ++
    [("events", .arr s.events.toList), ("captures", .arr s.captures.toList),
     ("counters", Stage.countersJson lab), ("state", .str lab.sim.state.name),
     ("simulation_frame", .int lab.sim.simFrame), ("steps", .int s.steps),
     ("metrics", .obj metrics), ("bodies", .obj bodies)]))

/-- The `simulate` request. -/
def simulateAnswer (req : Json) : Reply Json := do
  let scene ← buildScene {} (list req "world")
  let mut items : Array BodyItem := scene.bodies.map fun b =>
    { name := (scene.assembly.body b).name, master := b }
  let mut world : World := { name := ← str req "world_name" "world" }
  let mut worldErrors : Array Json := #[]
  for i in [0:items.size] do
    match world.addBody items i with
    | .ok w => world := w
    | .error e => worldErrors := worldErrors.push (.str e)
  if let some r ← floats? req "timeline" then
    world := { world with timeline := { world.timeline with begin := r.getD 0 0.0, «end» := r.getD 1 0.0 } }
  let mut controllers : Array Control.Controller := #[]
  for c in list req "controllers" do
    let i ← itemOf scene (← str c "body" "")
    let law ← lawOf c
    let required ← bool c "required" true
    let k := controllers.size
    items := items.modify i fun bi => { bi with controllers := bi.controllers.push ⟨k, required⟩ }
    controllers := controllers.push (Control.Controller.ofLaw law)
  let backend ← backendOf? req
  let patch ← ConfigPatch.ofJson (object req "config")
  let cfg := patch.apply { flushPeriod := 0 }
  let sim : Simulator Task :=
    { Simulator.create backend cfg with
      hasWorld := !(← bool req "no_world" false), source := detectorOf (← str req "detector" "sphere") }
  let session : Session := { stopOnPause := (← str req "on_pause" "") == "stop" }
  let before ← (list req "before").mapM (actionOf scene)
  let specs ← (list req "runs").mapM (runSpecOf scene)
  let mut lab : Stage :=
    { assembly := scene.assembly, items := items, controllers := controllers, world := world,
      sim := sim, session := session }
  lab := Stage.performAll before lab
  let beforeCaptures := lab.session.captures
  let mut runs : Array Json := #[]
  for spec in specs do
    let (lab', out) := runOnce spec lab
    lab := lab'
    runs := runs.push out
  let masterQ := lab.world.bodies.toList.map fun i =>
    let bi := lab.items.getD i default
    (bi.name, Json.ofFloats ((lab.assembly.body bi.master).joints.toList.map fun j =>
      (lab.assembly.link j).joint.q))
  return .obj [("world_errors", .arr worldErrors.toList), ("gravity", vec3Json lab.gravity),
    ("before_captures", .arr beforeCaptures.toList), ("runs", .arr runs.toList),
    ("config", configJson lab.sim.cfg), ("state", .str lab.sim.state.name),
    ("simulation_frame", .int lab.sim.simFrame), ("simulation_time", .num lab.simulationTime),
    ("timeline_current", .num lab.world.timeline.current),
    ("last_finish", finishJson lab.sim.lastFinish), ("master_q", .obj masterQ)]

end Multibody.Api
