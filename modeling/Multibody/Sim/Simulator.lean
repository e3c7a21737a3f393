import Multibody.Sim.Run
import Multibody.Sim.Archive

/-!
# Running a simulation

Starting a run clones every body of the world, initializes the controllers,
picks the active bodies, prepares collision detection and the engine, and
then steps until the run is stopped, reaches its end or fails.

One step: queued hook changes take effect; a changed activity rebuilds the
active list (and is announced); external forces are cleared and the
perturbations applied; every body's controllers run; the `pre` and `mid`
hooks run; contacts are detected; the engine advances the active bodies;
forced poses are held again; the `post` hooks run; then the frame count
advances and every body buffers a snapshot.  Buffered snapshots are
published to the items when the run is held and when it ends.
-/

namespace Multibody.Sim

variable {τ σ : Type}

/-- Marks the bodies that want to take part as active and lists them. -/
def Run.rebuildActive (r : Run) : Run :=
  let bodies := r.bodies.map fun sb => { sb with active := sb.wantActive }
  { r with bodies := bodies,
           active := (List.range bodies.size).toArray.filter fun k => (bodies[k]!).active }

namespace Lab

/-- The lab with a changed simulator. -/
def modifySim (lab : Lab τ σ) (f : Simulator τ → Simulator τ) : Lab τ σ :=
  { lab with sim := f lab.sim }

/-- The lab with its current run changed. -/
def modifyRun (lab : Lab τ σ) (f : Run → Run) : Lab τ σ :=
  lab.modifySim fun s => { s with run := s.run.map f }

/-- Reports to the simulator's instruments, when it has them. -/
def measure (lab : Lab τ σ) (f : Observe.Meter → Observe.Meter) : Lab τ σ :=
  lab.modifySim fun s => { s with meter := s.meter.map f }

/-- Records a finished span, when the simulator is traced. -/
def trace (lab : Lab τ σ) (span : Observe.Span) : Lab τ σ :=
  lab.modifySim fun s => { s with tracer := s.tracer.map (·.finish span) }

/-- Sets the simulator's state and reports it. -/
def setState (lab : Lab τ σ) (st : SimState) : Lab τ σ :=
  (lab.modifySim fun s => { s with state := st }).measure (·.setState st.code)

/-- The current run, or a blank one between runs. -/
def run (lab : Lab τ σ) : Run := lab.sim.run.getD { cfg := {}, record := false, frame := 0, startFrame := 0 }

/-- The lab with a changed assembly. -/
def withAssembly (lab : Lab τ σ) (a : Assembly) : Lab τ σ := { lab with assembly := a }

/-- The lab with a changed simulation body. -/
def modifyBody (lab : Lab τ σ) (k : Nat) (f : SimBody → SimBody) : Lab τ σ :=
  lab.modifyRun fun r => { r with bodies := r.bodies.modify k f }

/-- The lab with a changed item. -/
def modifyItem (lab : Lab τ σ) (i : Nat) (f : BodyItem → BodyItem) : Lab τ σ :=
  { lab with items := lab.items.modify i f }

/-- The time of the current frame. -/
def currentTime (lab : Lab τ σ) : Float := Float.ofInt lab.sim.currentFrame * lab.sim.runTimeStep

/-- The time of the last published frame. -/
def simulationTime (lab : Lab τ σ) : Float := Float.ofInt lab.sim.simFrame * lab.sim.runTimeStep

/-- The gravity of the engine, or the default without one. -/
def gravity (lab : Lab τ σ) : Vec3 :=
  match lab.sim.backend with
  | some bk => bk.gravity
  | none => Dynamics.defaultGravity

/-- Replaces the settings of later runs, when valid. -/
def setConfig (lab : Lab τ σ) (cfg : Config) : Lab τ σ × Option Failure :=
  match cfg.validate with
  | some f => (lab, some f)
  | none => (lab.modifySim fun s => { s with cfg := cfg }, none)

/-- Restores the settings of later runs from an archive.  Refused while a run
is current; a failed restore keeps the settings as they were. -/
def restore (lab : Lab τ σ) (a : Archive) : Lab τ σ × Option Failure :=
  if lab.sim.run.isSome then (lab, some (.around "restore: " (.condition .alreadyRunning) ""))
  else match lab.sim.cfg.restore a with
    | .error f => (lab, some (.around "restore: " f ""))
    | .ok cfg => lab.setConfig cfg

/-- Changes the time step of later runs. -/
def setTimeStep (lab : Lab τ σ) (dt : Float) : Lab τ σ × Option Failure :=
  lab.setConfig { lab.sim.cfg with timeStep := dt }

/-- Registers a hook in a phase; it takes effect at the next step boundary.
Handles count up from one across all phases. -/
def addHook (lab : Lab τ σ) (phase : Phase) (task : τ) : Lab τ σ × Nat :=
  let id := lab.sim.nextHandle + 1
  let lab := lab.modifySim fun s =>
    match phase with
    | .pre => { s with nextHandle := id, pre := s.pre.add id task }
    | .mid => { s with nextHandle := id, mid := s.mid.add id task }
    | .post => { s with nextHandle := id, post := s.post.add id task }
  (lab, id)

/-- Queues the removal of a hook of a phase. -/
def removeHook (lab : Lab τ σ) (phase : Phase) (id : Nat) : Lab τ σ :=
  lab.modifySim fun s =>
    match phase with
    | .pre => { s with pre := s.pre.remove id }
    | .mid => { s with mid := s.mid.remove id }
    | .post => { s with post := s.post.remove id }

/-- Asks the run to end after the current step. -/
def requestStop (lab : Lab τ σ) : Lab τ σ := lab.modifyRun fun r => { r with stop := true }

/-- Holds a running run. -/
def pause (lab : Lab τ σ) : Lab τ σ × Option Failure :=
  if lab.sim.run.isSome && lab.sim.state == .running then
    (lab.setState .paused, none)
  else (lab, some (.condition .notRunning))

/-- Resumes a held run. -/
def restart (lab : Lab τ σ) : Lab τ σ × Option Failure :=
  if lab.sim.run.isSome && lab.sim.state == .paused then
    (lab.setState .running, none)
  else (lab, some (.condition .notRunning))

/-- Applies a force to a link of an item (the root when no link is given)
every step, until cleared or for `duration` simulated seconds when positive. -/
def setExternalForce (lab : Lab τ σ) (item : Nat) (link : Option Int) (point force : Vec3)
    (duration : Float) : Lab τ σ :=
  lab.modifySim fun s =>
    let seq := s.pertSeq + 1
    { s with pertSeq := seq,
             perturb := s.perturb.withForce ⟨item, linkIndex link, seq, point, force, duration⟩ }

/-- Clears every external force. -/
def clearExternalForces (lab : Lab τ σ) : Lab τ σ :=
  lab.modifySim fun s => { s with perturb := { s.perturb with forces := #[] } }

/-- Pulls a point of a link (the root when no link is given) towards a world
goal. -/
def setElasticString (lab : Lab τ σ) (item : Nat) (link : Option Int) (attach goal : Vec3) : Lab τ σ :=
  lab.modifySim fun s => { s with perturb := s.perturb.withString ⟨item, linkIndex link, attach, goal⟩ }

/-- Clears every elastic string. -/
def clearElasticStrings (lab : Lab τ σ) : Lab τ σ :=
  lab.modifySim fun s => { s with perturb := { s.perturb with strings := #[] } }

/-- Holds an item's root at a pose. -/
def setForcedPose (lab : Lab τ σ) (item : Nat) (pose : Mat4) : Lab τ σ :=
  lab.modifySim fun s => { s with perturb := s.perturb.withForced ⟨item, pose⟩ }

/-- Releases every forced pose. -/
def clearForcedPoses (lab : Lab τ σ) : Lab τ σ :=
  lab.modifySim fun s => { s with perturb := { s.perturb with forced := #[] } }

/-- Requests a change of a simulation body's activity, effective at the next
step boundary. -/
def setActive (lab : Lab τ σ) (k : Nat) (on : Bool) : Lab τ σ :=
  match lab.run.bodies[k]? with
  | some sb =>
    if sb.wantActive == on then lab
    else (lab.modifyBody k fun sb => { sb with wantActive := on }).modifyRun
      fun r => { r with activityDirty := true }
  | none => lab

/-- Records a device in the next buffered snapshot. -/
def notifyDeviceChange (lab : Lab τ σ) (k : Nat) (device : Int) : Lab τ σ :=
  lab.modifyBody k fun sb => { sb with changedDevices := sb.changedDevices.push device }

/-- The simulation body of a run with a body name. -/
def findBodyByName? (lab : Lab τ σ) (name : String) : Option Nat :=
  lab.sim.run.bind fun r => r.bodies.findIdx? fun sb => (lab.assembly.body sb.body).name == name

/-! ## Setup -/

/-- Clones an item's master body under the run's clone map. -/
def cloneItem (a : Assembly) (cm : CloneMap) (bi : BodyItem) :
    Except Failure (Assembly × CloneMap × BodyId) :=
  match (a.body bi.master).root with
  | none => .error (.note ("body " ++ bi.name ++ " has no root link"))
  | some _ =>
    match a.cloneBody cm bi.master with
    | .ok r => .ok r
    | .error f => .error (.note ("body " ++ bi.name ++ ": panic: " ++ f.message))

/-- Forward kinematics of the clones, bodies mounted on no other first. -/
def updateKinematics (a : Assembly) (bodies : Array BodyId) : Assembly :=
  let free := bodies.filter fun b => (a.parentBodyLink? b).isNone
  let mounted := bodies.filter fun b => (a.parentBodyLink? b).isSome
  (free ++ mounted).foldl Assembly.forwardKinematics a

/-- The controller environment of the current run. -/
def controlEnv (lab : Lab τ σ) (cfg : Config) : Control.Env :=
  { options := cfg.controllerOptions, timeStep := cfg.timeStep, time := lab.currentTime }

/-- Initializes one attached controller for a clone: the lab with the
controller's new state, whether it started, and the failure of a panic. -/
def initController (cfg : Config) (clone : BodyId) (att : Attachment) (lab : Lab τ σ) :
    Lab τ σ × Bool × Option Failure :=
  match (lab.controllers.getD att.controller default).prepare lab.assembly clone (lab.controlEnv cfg) with
  | .ok (c', ok) =>
    ({ lab with controllers := lab.controllers.set! att.controller (if ok then c'.initialized else c') }, ok, none)
  | .error msg => (lab, false, some (.note ("panic: " ++ msg)))

/-- Stops the controllers of some slots, in order. -/
def stopAll (cs : Array Control.Controller) (slots : Array ControllerSlot) : Array Control.Controller :=
  slots.foldl (fun cs s => cs.modify s.controller Control.Controller.stop) cs

/-- Stops the controllers of some slots. -/
def stopSlots (lab : Lab τ σ) (slots : Array ControllerSlot) : Lab τ σ :=
  { lab with controllers := stopAll lab.controllers slots }

/-- Stops the controllers of every body, body by body. -/
def stopBodies (lab : Lab τ σ) (bodies : Array SimBody) : Lab τ σ :=
  { lab with controllers := bodies.foldl (fun cs sb => stopAll cs sb.slots) lab.controllers }

/-- Initializes the attached controllers of an item for its clone, in order,
collecting their slots.  A controller that cannot start leaves the body out
of the run (`none`), or fails the start when it is required; either way the
controllers started before it are stopped. -/
def prepareSlots (cfg : Config) (bi : BodyItem) (clone : BodyId) :
    List Attachment → Lab τ σ → Array ControllerSlot →
      Lab τ σ × Except Failure (Option (Array ControllerSlot))
  | [], lab, slots => (lab, .ok (some slots))
  | att :: rest, lab, slots =>
    let c := lab.controllers.getD att.controller default
    match initController cfg clone att lab with
    | (lab, ok, err) =>
      if !ok then
        if att.required then
          let err := err.getD (.note ("controller " ++ c.name ++ " returned false"))
          (lab.stopSlots slots, .error (.pair (.condition .controllerInitFailed) (": body " ++ bi.name ++ ": ") err))
        else (lab.stopSlots slots, .ok none)
      else prepareSlots cfg bi clone rest lab (slots.push { controller := att.controller, required := att.required })

/-- Initializes the controllers of an item for its clone.  `none` leaves
the body out of the run; a failure aborts the start. -/
def prepareControllers (lab : Lab τ σ) (cfg : Config) (bi : BodyItem) (clone : BodyId) :
    Lab τ σ × Except Failure (Option (Array ControllerSlot)) :=
  prepareSlots cfg bi clone bi.controllers.toList lab #[]

/-- Prepares collision detection for a run that detects self collisions or
whose engine wants contacts.  Without a detector, or without a candidate
pair, the run goes without. -/
def resolveDetector (lab : Lab τ σ) : Lab τ σ := Id.run do
  let r := lab.run
  let wants := (lab.sim.backend.map (·.wantsContacts)).getD false
  if !r.cfg.selfCollision && !wants then return lab
  let det? : Option Detector := match lab.sim.detector with
    | some d => some d
    | none =>
      match lab.sim.source with
      | .sphere => some {}
      | .breaking => some { breaks := true }
      | _ => none
  match det? with
  | none => return lab
  | some d =>
    let spheres := r.bodies.foldl (fun sd sb => sd.addBody lab.assembly sb.body r.cfg.selfCollision)
      ({} : SphereDetector)
    let (spheres, ok) := spheres.makeReady
    if !ok then return lab.modifySim fun s => { s with detector := some { d with spheres := {} } }
    let lab := lab.modifySim fun s => { s with detector := some { d with spheres := spheres } }
    return lab.modifyRun fun r => { r with detecting := true, contacts := wants }

/-- Clones the items of a world in order under one clone map.  The first
item that cannot be cloned stops the cloning with its failure; the
assembly then holds the clones made before it. -/
def cloneItems (items : Array BodyItem) :
    List Nat → Assembly → CloneMap → Array BodyId → Assembly × CloneMap × Array BodyId × Option Failure
  | [], a, cm, clones => (a, cm, clones, none)
  | i :: rest, a, cm, clones =>
    match cloneItem a cm (items.getD i default) with
    | .ok (a, cm, c) => cloneItems items rest a cm (clones.push c)
    | .error f => (a, cm, clones, some f)

/-- Puts each clone in the last published state of its item, where it has
one. -/
def applyStates (lab : Lab τ σ) (pairs : List (Nat × BodyId)) : Lab τ σ :=
  pairs.foldl (fun lab (i, c) =>
    match (lab.items.getD i default).state with
    | some st =>
      match lab.assembly.applySnapshot c st with
      | .ok a => lab.withAssembly a
      | .error _ => lab
    | none => lab) lab

/-- Initializes the controllers of each item for its clone and makes the
simulation bodies of the run: a body whose optional controller fails is
left out, a failing required controller fails the setup and stops the
controllers of the bodies made so far. -/
def prepareBodies (cfg : Config) :
    List (Nat × BodyId) → Lab τ σ → Array SimBody → Lab τ σ × Except Failure (Array SimBody)
  | [], lab, bodies => (lab, .ok bodies)
  | (i, c) :: rest, lab, bodies =>
    match lab.prepareControllers cfg (lab.items.getD i default) c with
    | (lab, .error f) => (lab.stopBodies bodies, .error f)
    | (lab, .ok none) => prepareBodies cfg rest lab bodies
    | (lab, .ok (some slots)) =>
      let on := !lab.assembly.isStaticModel c
      prepareBodies cfg rest lab (bodies.push { item := i, body := c, slots := slots, active := on,
                                                wantActive := on, capacity := cfg.bufferCapacity })

/-- Opens the recordings of the run's items: reset ones are emptied first,
and every one takes the capacity. -/
def openRecordings (lab : Lab τ σ) (reset : Bool) (capacity : Int) (bodies : Array SimBody) : Lab τ σ :=
  bodies.foldl (fun lab sb => lab.modifyItem sb.item fun bi =>
    let bi := if reset then bi.resetState else bi
    { bi with recording := bi.recording.setCapacity capacity }) lab

/-- The last part of a setup: the engine prepares for the bodies.  When it
refuses, the bodies' controllers are stopped, the run is dropped and the
detector's state released; otherwise
the items' recordings are opened and the simulation frame is the start
frame. -/
def launch (lab : Lab τ σ) (cfg : Config) (backend : Dynamics.Backend) (reset : Bool)
    (startFrame : Int) (bodies : Array SimBody) : Lab τ σ × Option Failure :=
  let timeStep? := if bodies.isEmpty then none else some cfg.timeStep
  let ready : Except String (Dynamics.Backend × Bool) := backend.begin timeStep?
  let lab := match ready with
    | .ok (bk, _) => lab.modifySim fun s => { s with backend := some bk }
    | .error _ => lab
  let accepted := match ready with
    | .ok (_, ok) => ok
    | .error _ => false
  if !accepted then
    let detecting := lab.run.detecting
    ((lab.stopBodies bodies).modifySim fun s => { s with
      run := none,
      detector := if detecting then s.detector.map fun d => { d with spheres := {} } else s.detector },
     some (.chain (.condition .setupFailed) (.condition .initializeFailed)))
  else
    let capacity : Int := if cfg.recording == .tail then cfg.tailFrames else 0
    let lab := (lab.openRecordings reset capacity bodies).modifySim fun s => { s with simFrame := startFrame }
    (lab.measure (·.setActive lab.run.active.size), none)

/-- A setup past its checks: the run's time step and start frame are set,
then the clones are made, put in their published states unless reset, and
placed; the controllers are initialized, the run is made with collision
detection, and the engine is launched.  What was done before a failure
stays done. -/
def setupWith (lab : Lab τ σ) (cfg : Config) (backend : Dynamics.Backend) (reset : Bool) :
    Lab τ σ × Option Failure :=
  let startFrame := if reset then 0 else lab.sim.lastFrame
  let runId := Text.uuidOf 2 lab.sim.runsSetUp
  let lab := lab.modifySim fun s =>
    { s with runTimeStep := cfg.timeStep, currentFrame := startFrame, runsSetUp := s.runsSetUp + 1 }
  let items := lab.world.bodies
  match cloneItems lab.items items.toList lab.assembly {} #[] with
  | (a, _, _, some f) =>
    (lab.withAssembly a, some (.chain (.condition .setupFailed) (.chain (.condition .cloneFailed) f)))
  | (a, cm, clones, none) =>
    let (a, cm) := a.finalizeClones cm
    let pairs := (items.zip clones).toList
    let lab := lab.withAssembly a
    let lab := if reset then lab else lab.applyStates pairs
    let lab := lab.withAssembly (updateKinematics lab.assembly clones)
    match prepareBodies cfg pairs lab #[] with
    | (lab, .error f) => (lab, some (.chain (.condition .setupFailed) f))
    | (lab, .ok bodies) =>
      let run : Run := {
        cfg := cfg, cloneMap := cm, record := cfg.recording != .off, id := runId,
        opts := { allLinkPositions := cfg.allLinkPositionOutput, allDevices := cfg.deviceStateOutput },
        bodies := bodies, frame := startFrame, startFrame := startFrame }
      let lab := (lab.modifySim fun s => { s with run := some run.rebuildActive }).resolveDetector
      lab.launch cfg backend reset startFrame bodies

/-- Sets up a run: validation, engine and world checks, then the rest of the
setup (`setupWith`). -/
def setup (lab : Lab τ σ) (reset : Bool) : Lab τ σ × Option Failure :=
  let cfg := lab.sim.cfg
  match cfg.validate, lab.sim.backend with
  | some f, _ => (lab, some (.chain (.condition .setupFailed) f))
  | none, none => (lab, some (.chain (.condition .setupFailed) (.condition .noBackend)))
  | none, some backend =>
    if lab.sim.hasWorld then lab.setupWith cfg backend reset
    else (lab, some (.chain (.condition .setupFailed) (.condition .noWorld)))

/-! ## Stepping -/

/-- The failure of a step: the condition, with its cause, at the next frame. -/
def stepError (r : Run) (c : Condition) (cause : Option String) : Failure :=
  let wrapped : Failure := match cause with
    | some m => .chain (.condition c) (.note m)
    | none => .condition c
  .atFrame (r.frame + 1) (Float.ofInt (r.frame + 1) * r.cfg.timeStep) "" wrapped

/-- Runs hook tasks in order; a breakdown ends the pass with a message
naming the hook. -/
def runEntries (h : Handlers τ σ) : List (Nat × τ) → Lab τ σ → Lab τ σ × Option String
  | [], lab => (lab, none)
  | (id, task) :: rest, lab =>
    match h.hook id task lab with
    | (lab, some msg) => (lab, some ("hook " ++ toString id ++ " panicked: " ++ msg))
    | (lab, none) => runEntries h rest lab

/-- The hooks of a phase. -/
def hooksOf (lab : Lab τ σ) : Phase → HookRegistry τ
  | .pre => lab.sim.pre
  | .mid => lab.sim.mid
  | .post => lab.sim.post

/-- Runs the hooks of a phase in order; a breakdown ends the pass with a
message naming the hook. -/
def runHooks (h : Handlers τ σ) (phase : Phase) (lab : Lab τ σ) : Lab τ σ × Option String :=
  runEntries h (lab.hooksOf phase).entries.toList lab

/-- Runs the hooks of a phase as part of a step: a breakdown fails the step. -/
def runPhase (h : Handlers τ σ) (phase : Phase) (lab : Lab τ σ) : Lab τ σ × Option Failure :=
  match lab.runHooks h phase with
  | (lab, some e) => (lab, some (stepError lab.run .hookFailed (some e)))
  | (lab, none) => (lab, none)

/-- Holds the efforts of a body at their current values. -/
def freeze (lab : Lab τ σ) (k : Nat) : Lab τ σ :=
  let sb := lab.run.bodies.getD k default
  if sb.isFrozen then lab
  else
    let u := (lab.assembly.body sb.body).joints.map fun j => (lab.assembly.link j).joint.u
    lab.modifyBody k fun sb => { sb with frozen := u, isFrozen := true }

/-- Runs a controller once: it reads, computes and (unless it broke down)
writes.  The answer is why it stops, if it does: it finished, failed or
broke down. -/
def driveController (env : Control.Env) (idx : Nat) (lab : Lab τ σ) : Lab τ σ × Option Failure :=
  let c := (lab.controllers.getD idx default).input lab.assembly
  match c.control env with
  | .error msg =>
    ({ lab with controllers := lab.controllers.set! idx c },
     some (.note ("controller " ++ c.name ++ " panicked: " ++ msg)))
  | .ok (c, verdict) =>
    let lab := { lab with controllers := lab.controllers.set! idx c }
    (if Control.Controller.writesOutput verdict then lab.withAssembly (c.output lab.assembly) else lab,
     verdict)

/-- Stops the `si`-th slot of the `k`-th body; unless its controller just
finished, the slot is marked failed, the body's efforts are frozen and the
failure is counted. -/
def stopSlot (k si : Nat) (f : Failure) (lab : Lab τ σ) : Lab τ σ :=
  let failed := !f.has .controllerDone
  let lab := lab.modifyBody k fun sb => { sb with slots := sb.slots.modify si fun s =>
    { s with running := false, failed := s.failed || failed } }
  if failed then (lab.freeze k).measure (·.incFailures) else lab

/-- Runs one controller slot of the `k`-th body, when it still runs. -/
def runSlot (env : Control.Env) (k : Nat) (sb : SimBody) (lab : Lab τ σ) (si : Nat) : Lab τ σ :=
  let slot := sb.slots[si]!
  if !slot.running then lab
  else
    match lab.driveController env slot.controller with
    | (lab, none) => lab
    | (lab, some f) => lab.stopSlot k si f

/-- Runs the controllers of a body: frozen efforts are written back first,
then every slot runs in order. -/
def runControllers (lab : Lab τ σ) (k : Nat) : Lab τ σ :=
  let sb := lab.run.bodies.getD k default
  let lab := if sb.isFrozen then
      let joints := (lab.assembly.body sb.body).joints
      lab.withAssembly ((joints.zip sb.frozen).foldl (fun a (j, u) => a.modifyLink j fun l =>
        { l with joint := { l.joint with u := u } }) lab.assembly)
    else lab
  let env := lab.controlEnv lab.run.cfg
  (List.range sb.slots.size).foldl (runSlot env k sb) lab

/-- Whether a force with a duration has lapsed at `now`.  Its clock starts
when it is first applied. -/
def forceLapsed (now : Float) (lab : Lab τ σ) (f : ForceCommand) : Lab τ σ × Bool :=
  if f.duration > 0.0 then
    match lab.run.forceStart.lookup f.seq with
    | some start => (lab, now - start ≥ f.duration - timeEpsilon)
    | none =>
      (lab.modifyRun fun r => { r with forceStart := (f.seq, now) :: r.forceStart },
       now - now ≥ f.duration - timeEpsilon)
  else (lab, false)

/-- Applies an external force to its link when the body is active, until
the force lapses. -/
def applyForce (now : Float) (lab : Lab τ σ) (f : ForceCommand) : Lab τ σ :=
  match lab.run.bodyOf? f.item with
  | none => lab
  | some k =>
    let sb := lab.run.bodies[k]!
    if !sb.active then lab
    else
      match lab.assembly.linkAt? sb.body f.link with
      | none => lab
      | some l =>
        match lab.forceLapsed now f with
        | (lab, true) => lab
        | (lab, false) =>
          let lk := lab.assembly.link l
          lab.withAssembly (lab.assembly.modifyLink l (·.addExternalForce (lk.worldPoint f.point) f.force))

/-- Pulls a link of an active body towards the string's goal. -/
def applyString (lab : Lab τ σ) (s : StringCommand) : Lab τ σ :=
  match lab.run.bodyOf? s.item with
  | none => lab
  | some k =>
    let sb := lab.run.bodies[k]!
    if !sb.active then lab
    else
      match lab.assembly.linkAt? sb.body s.link with
      | none => lab
      | some l =>
        let stiffness := stringStiffness * lab.assembly.totalMass sb.body
        let anchor := (lab.assembly.link l).worldPoint s.attach
        lab.withAssembly
          (lab.assembly.modifyLink l (·.addExternalForce anchor ((s.goal - anchor).scale stiffness)))

/-- Applies the external forces and strings to the active bodies. -/
def applyPerturbations (lab : Lab τ σ) (p : Perturbations) : Lab τ σ :=
  let now := lab.run.time
  p.strings.foldl applyString (p.forces.foldl (applyForce now) lab)

/-- Puts a forced root back at its pose, at rest, and recomputes the
kinematics; a mounted root is left alone. -/
def holdForcedPose (lab : Lab τ σ) (fp : ForcedPose) : Lab τ σ :=
  match lab.run.bodyOf? fp.item with
  | none => lab
  | some k =>
    let sb := lab.run.bodies[k]!
    match (lab.assembly.body sb.body).root with
    | none => lab
    | some r =>
      if lab.assembly.hasParentBody (lab.assembly.link r) then lab
      else
        let a := lab.assembly.modifyLink r fun l =>
          { l with pose := fp.pose, v := l.v.scale 0.0, w := l.w.scale 0.0 }
        lab.withAssembly (a.forwardKinematics sb.body)

/-- Holds every forced pose. -/
def holdForcedPoses (lab : Lab τ σ) (p : Perturbations) : Lab τ σ :=
  p.forced.foldl holdForcedPose lab

/-- Asks the detector for the contacts of the coming step; a detector that
breaks down is dropped for the rest of the run and gives none. -/
def queryDetector (lab : Lab τ σ) (d : Detector) : Lab τ σ × Array LinkPair :=
  if d.breaks then (lab.modifyRun fun r => { r with detecting := false }, #[])
  else
    let (spheres, pairs) := d.spheres.detect lab.assembly
    (lab.modifySim fun s => { s with detector := some { d with spheres := spheres } }, pairs)

/-- Hands contacts to the engine, when the run uses contacts, and keeps them
as the run's collisions. -/
def useContacts (lab : Lab τ σ) (pairs : Array LinkPair) : Lab τ σ :=
  let lab := if lab.run.contacts then
      lab.modifySim fun s => { s with backend := s.backend.map (·.setContacts pairs) }
    else lab
  lab.modifyRun fun r => { r with collisions := pairs }

/-- Detects contacts for the coming step and hands them to the engine. -/
def detectCollisions (lab : Lab τ σ) : Lab τ σ :=
  match lab.sim.detector with
  | none => lab
  | some d =>
    match lab.queryDetector d with
    | (lab, pairs) => lab.useContacts pairs

/-- Buffers a snapshot of a body at a frame, dropping the oldest when the
buffer is full. -/
def bufferResults (lab : Lab τ σ) (k : Nat) (frame : Int) (time : Float) : Lab τ σ :=
  let r := lab.run
  let sb := r.bodies.getD k default
  let opts := { r.opts with changedDevices := sb.changedDevices }
  let snap := (lab.assembly.takeSnapshot sb.body {} opts).toOption.getD {}
  let snap := { snap with frame := frame, time := time }
  lab.modifyBody k (·.pushResult snap)

/-- Publishes the buffer of the `k`-th body to its item and empties it,
adding to the count of frames published and the newest frame. -/
def flushBody (r : Run) (acc : Lab τ σ × Nat × Int) (k : Nat) : Lab τ σ × Nat × Int :=
  let sb := r.bodies[k]!
  match sb.buffer.back? with
  | none => acc
  | some s =>
    let lab := (acc.1.modifyItem sb.item (·.publish sb.buffer r.record)).modifyBody k
      fun sb => { sb with buffer := #[] }
    (lab, acc.2.1 + sb.buffer.size, if s.frame > acc.2.2 then s.frame else acc.2.2)

/-- Publishes every buffered snapshot to its item; the last frame becomes
the simulation frame and the timeline's current time. -/
def flush (lab : Lab τ σ) : Lab τ σ :=
  let r := lab.run
  let (lab, total, last) := (List.range r.bodies.size).foldl (flushBody r) (lab, 0, -1)
  if total = 0 then lab
  else
    let lab := (lab.modifySim fun s => { s with simFrame := last }).measure (·.observeFlush total)
    { lab with world := { lab.world with timeline :=
      { lab.world.timeline with current := Float.ofInt last * r.cfg.timeStep } } }

/-- The start of a step: queued hook changes take effect, and a changed
activity rebuilds the active list, which is reported and announced. -/
def beginStep (h : Handlers τ σ) (lab : Lab τ σ) : Lab τ σ :=
  let lab := lab.modifySim fun s =>
    { s with pre := s.pre.apply, mid := s.mid.apply, post := s.post.apply }
  if lab.run.activityDirty then
    let lab := lab.modifyRun fun r => { r.rebuildActive with activityDirty := false }
    let r := lab.run
    let lab := lab.measure (·.setActive r.active.size)
    h.event { kind := .bodyListUpdated, frame := r.frame, time := r.time, active := r.active } lab
  else lab

/-- Clears the external forces of the active bodies. -/
def clearForces (lab : Lab τ σ) : Lab τ σ :=
  lab.run.active.foldl (fun lab k =>
    lab.withAssembly (lab.assembly.clearExternalForces (lab.run.bodies.getD k default).body)) lab

/-- Runs the controllers of every body of the run, in order. -/
def runAllControllers (lab : Lab τ σ) : Lab τ σ :=
  (List.range lab.run.bodies.size).foldl runControllers lab

/-- The engine advances the active bodies from the current time. -/
def advance (lab : Lab τ σ) : Lab τ σ × Option Failure :=
  match lab.sim.backend with
  | none => (lab, some (stepError lab.run .stepFailed none))
  | some bk =>
    let active := lab.run.active.map fun k => (lab.run.bodies.getD k default).body
    match bk.advance lab.assembly active lab.currentTime with
    | .error msg => (lab, some (stepError lab.run .stepFailed (some ("backend panicked: " ++ msg))))
    | .ok (a, bk, ok) =>
      let lab := (lab.withAssembly a).modifySim fun s => { s with backend := some bk }
      (lab, if ok then none else some (stepError lab.run .stepFailed none))

/-- Buffers a snapshot of every body at the run's frame. -/
def bufferAll (lab : Lab τ σ) : Lab τ σ :=
  let frame := lab.run.frame
  let t := lab.run.time
  (List.range lab.run.bodies.size).foldl (fun lab k => lab.bufferResults k frame t) lab

/-- The end of a step that went through: the frame advances, every body
buffers a snapshot, and the dispatcher may publish the buffers. -/
def completeStep (h : Handlers τ σ) (lab : Lab τ σ) : Lab τ σ :=
  let lab := lab.modifyRun fun r => { r with frame := r.frame + 1 }
  let frame := lab.run.frame
  let lab := ((lab.modifySim fun s => { s with currentFrame := frame }).bufferAll).measure
    (·.setFrame frame)
  if h.flushAfter lab then lab.flush else lab

/-- One step of the current run; a failure ends the run. -/
def step (h : Handlers τ σ) (lab : Lab τ σ) : Lab τ σ × Option Failure :=
  let lab := (lab.beginStep h).clearForces
  let pert := lab.sim.perturb
  let lab := if pert.isEmpty then lab else (lab.applyPerturbations pert).holdForcedPoses pert
  match lab.runAllControllers.runPhase h .pre with
  | (lab, some f) => (lab, some f)
  | (lab, none) =>
    match lab.runPhase h .mid with
    | (lab, some f) => (lab, some f)
    | (lab, none) =>
      match (if lab.run.detecting then lab.detectCollisions else lab).advance with
      | (lab, some f) => (lab, some f)
      | (lab, none) =>
        match (if pert.isEmpty then lab else lab.holdForcedPoses pert).runPhase h .post with
        | (lab, some f) => (lab, some f)
        | (lab, none) => (lab.completeStep h, none)

/-- Whether the run has reached the end its time range sets. -/
def reachedEnd (lab : Lab τ σ) : Bool :=
  let r := lab.run
  match r.cfg.timeRange with
  | .specified => r.time ≥ r.cfg.timeLength - timeEpsilon
  | .activeControl => !r.bodies.any fun sb => sb.slots.any (·.running)
  | .timeline => lab.world.timeline.endReached r.time
  | _ => false

/-- Holds the run: publishes the buffers, announces the pause and waits to
be resumed.  `false` when the run was stopped (or left held) instead. -/
def holdRun (h : Handlers τ σ) (lab : Lab τ σ) : Lab τ σ × Bool :=
  let lab := lab.flush
  let r := lab.run
  let lab := h.event { kind := .paused, frame := r.frame, time := r.time } lab
  if lab.run.stop || lab.sim.state == .paused then (lab, false)
  else
    let r := lab.run
    (h.event { kind := .resumed, frame := r.frame, time := r.time } lab, true)

/-- Steps until the run stops, fails or reaches its end; `fuel` bounds the
number of steps. -/
def loop (h : Handlers τ σ) : Nat → Lab τ σ → Lab τ σ × FinishInfo
  | 0, lab => (lab, {})
  | fuel + 1, lab =>
    if lab.run.stop then (lab, {})
    else if lab.sim.state == .paused then
      match holdRun h lab with
      | (lab, true) => loop h fuel lab
      | (lab, false) => (lab, {})
    else
      match step h lab with
      | (lab, some err) => (lab, { abnormal := true, err := some err })
      | (lab, none) =>
        let lab := lab.measure (·.observeStep 0)
        if lab.reachedEnd then (lab, {}) else loop h fuel lab

/-- Ends the run: publishes what is buffered, stops the controllers of its
bodies, releases the engine's and the detector's run state, drops every
hook, records how the run ended and announces it. -/
def teardown (h : Handlers τ σ) (lab : Lab τ σ) (finish : FinishInfo) : Lab τ σ :=
  let lab := lab.flush
  let r := lab.run
  let lab := (lab.stopBodies r.bodies).modifySim fun s => { s with
    backend := s.backend.map (·.finish),
    detector := if r.detecting then s.detector.map fun d => { d with spheres := {} } else s.detector,
    pre := {}, mid := {}, post := {} }
  let finish := { finish with frame := r.frame, time := r.time }
  let lab := (lab.modifySim fun s => { s with
    run := none, lastFrame := r.frame, lastFinish := finish }).setState .idle
  let lab := lab.measure (·.incRuns finish.abnormal)
  let lab := match r.span with
    | some span =>
      let span := span.withAttributes [("sim.frames", .int (r.frame - r.startFrame)),
        ("sim.abnormal", .bool finish.abnormal)]
      lab.trace (match finish.err with
        | some e => span.fail e.message "*dynamo.SimulationError"
        | none => span)
    | none => lab
  h.event { kind := .finished, frame := r.frame, time := finish.time, finish := finish } lab

/-- Starts a run and carries it to its end, or answers why it cannot start. -/
def start (h : Handlers τ σ) (fuel : Nat) (reset : Bool) (lab : Lab τ σ) : Lab τ σ × Option Failure :=
  if lab.sim.run.isSome then (lab, some (.condition .alreadyRunning))
  else
    let startSpan : Observe.Span :=
      { name := "sim.StartSimulation", scope := Observe.simScope, attributes := [("sim.reset", .bool reset)] }
    match lab.setup reset with
    | (lab, some f) => (lab.trace (startSpan.fail f.message "*fmt.wrapErrors"), some f)
    | (lab, none) =>
      let r := lab.run
      let runSpan : Observe.Span :=
        { name := "sim.Run", parent := some startSpan.name, scope := Observe.simScope,
          attributes := [("sim.run_id", .str r.id), ("sim.bodies", .int r.bodies.size),
                         ("sim.start_frame", .int r.startFrame)] }
      let lab := if lab.sim.tracer.isSome then lab.modifyRun fun r => { r with span := some runSpan } else lab
      let lab := (lab.trace startSpan).setState .running
      let r := lab.run
      let lab := h.event { kind := .started, frame := r.frame, time := r.time } lab
      let (lab, finish) := loop h fuel lab
      (teardown h lab finish, none)

end Lab

end Multibody.Sim
