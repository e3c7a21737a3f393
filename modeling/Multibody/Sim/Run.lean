import Multibody.Sim.Config
import Multibody.Sim.Item
import Multibody.Sim.Hooks
import Multibody.Sim.Perturbation
import Multibody.Dynamics.Backend
import Multibody.Body.Clone
import Multibody.Observe.Meter
import Multibody.Observe.Trace
import Multibody.Text.Uuid

/-!
# Simulator state

The state of a simulator and of its current run, and the lab: everything a
run reads and changes (the bodies, the items, the controllers, the world),
together with the state of whoever drives the simulator.

A run works on clones of the items' master bodies.  Each clone is a
simulation body with its controller slots, its activity flag and the buffer
of snapshots waiting to be published to its item.
-/

namespace Multibody.Sim

/-- Whether a simulator is between runs, running, or holding a run. -/
inductive SimState where
  | idle
  | running
  | paused
  deriving BEq, Inhabited, Repr

/-- The state's name. -/
def SimState.name : SimState → String
  | .idle => "idle"
  | .running => "running"
  | .paused => "paused"

/-- The state's number. -/
def SimState.code : SimState → Int
  | .idle => 0
  | .running => 1
  | .paused => 2

/-- How a run ended. -/
structure FinishInfo where
  frame : Int := 0
  time : Float := 0.0
  abnormal : Bool := false
  err : Option Failure := none
  deriving Inhabited

/-- A controller of a simulation body and whether it still runs. -/
structure ControllerSlot where
  controller : Nat
  required : Bool
  running : Bool := true
  failed : Bool := false
  deriving Inhabited

/-- One body of a run: the clone, its controllers, and its result buffer. -/
structure SimBody where
  item : Nat
  body : BodyId
  slots : Array ControllerSlot := #[]
  /-- efforts held after a controller failure -/
  frozen : Array Float := #[]
  isFrozen : Bool := false
  active : Bool
  wantActive : Bool
  changedDevices : Array Int := #[]
  buffer : Array Snapshot := #[]
  capacity : Nat := 0
  deriving Inhabited

/-- Adds a snapshot to a body's buffer, dropping the oldest first when the
buffer is full; the changed devices have then been recorded. -/
def SimBody.pushResult (sb : SimBody) (snap : Snapshot) : SimBody :=
  let buffer :=
    if sb.capacity > 0 && sb.buffer.size ≥ sb.capacity then
      sb.buffer.extract (sb.buffer.size - sb.capacity + 1) sb.buffer.size
    else sb.buffer
  { sb with buffer := buffer.push snap, changedDevices := #[] }

/-- The collision detector of a simulator; a breaking one stops with a
message when asked for contacts. -/
structure Detector where
  spheres : SphereDetector := {}
  breaks : Bool := false
  deriving Inhabited

/-- Where a simulator gets a collision detector from. -/
inductive DetectorSource where
  /-- no source: runs go without contacts -/
  | absent
  /-- a fresh sphere detector -/
  | sphere
  /-- a source that fails -/
  | failing
  /-- a source that gives nothing -/
  | empty
  /-- a sphere detector that breaks down when detecting -/
  | breaking
  deriving BEq, Inhabited

/-- The state of one run. -/
structure Run where
  cfg : Config
  cloneMap : CloneMap := {}
  opts : SnapshotOptions := {}
  record : Bool
  bodies : Array SimBody := #[]
  /-- indices into `bodies` of the bodies taking part in the dynamics -/
  active : Array Nat := #[]
  detecting : Bool := false
  contacts : Bool := false
  collisions : Array LinkPair := #[]
  frame : Int
  startFrame : Int
  forceStart : List (Nat × Float) := []
  stop : Bool := false
  activityDirty : Bool := false
  /-- the run's id -/
  id : String := ""
  /-- the span covering the run, while it is traced -/
  span : Option Observe.Span := none
  deriving Inhabited

/-- The time of the run's current frame. -/
def Run.time (r : Run) : Float := Float.ofInt r.frame * r.cfg.timeStep

/-- The index of an item's body in the run. -/
def Run.bodyOf? (r : Run) (item : Nat) : Option Nat := r.bodies.findIdx? (·.item == item)

/-- A simulator; hooks carry tasks of type `τ`. -/
structure Simulator (τ : Type) where
  backend : Option Dynamics.Backend
  cfg : Config
  hasWorld : Bool := false
  source : DetectorSource := .absent
  detector : Option Detector := none
  run : Option Run := none
  lastFrame : Int := 0
  lastFinish : FinishInfo := {}
  state : SimState := .idle
  runTimeStep : Float
  currentFrame : Int := 0
  simFrame : Int := 0
  nextHandle : Nat := 0
  pre : HookRegistry τ := {}
  mid : HookRegistry τ := {}
  post : HookRegistry τ := {}
  perturb : Perturbations := {}
  pertSeq : Nat := 0
  /-- the instruments the simulator reports to, if any -/
  meter : Option Observe.Meter := none
  /-- where the simulator's spans go, if traced -/
  tracer : Option Observe.Tracer := none
  /-- runs set up so far, which numbers their ids -/
  runsSetUp : Nat := 0

/-- A new idle simulator. -/
def Simulator.create {τ : Type} (backend : Option Dynamics.Backend) (cfg : Config) : Simulator τ :=
  { backend := backend, cfg := cfg, runTimeStep := cfg.timeStep }

/-- What the simulator tells its observers. -/
inductive EventKind where
  | started
  | paused
  | resumed
  | finished
  | bodyListUpdated
  deriving BEq, Inhabited, Repr

/-- The kind's name. -/
def EventKind.name : EventKind → String
  | .started => "started"
  | .paused => "paused"
  | .resumed => "resumed"
  | .finished => "finished"
  | .bodyListUpdated => "body_list_updated"

/-- A notification: its kind, frame and time, how the run finished (for
`finished`) and the active bodies (for `bodyListUpdated`). -/
structure Event where
  kind : EventKind
  frame : Int
  time : Float
  finish : FinishInfo := {}
  active : Array Nat := #[]
  deriving Inhabited

/-- Everything a run reads and changes, and the driver's own state `σ`. -/
structure Lab (τ σ : Type) where
  assembly : Assembly
  items : Array BodyItem
  controllers : Array Control.Controller
  world : World
  sim : Simulator τ
  session : σ

/-- How a driver takes part in a run: running its hook tasks (with the
breakdown message of a task that breaks down, after what it did before) and
observing events.  `flushAfter` stands for the wall clock and the dispatcher:
whether the buffers are published right after a step, because the flush
period has passed and no flush is in flight.  By default no flush happens
between a run's holds. -/
structure Handlers (τ σ : Type) where
  hook : Nat → τ → Lab τ σ → Lab τ σ × Option String
  event : Event → Lab τ σ → Lab τ σ
  flushAfter : Lab τ σ → Bool := fun _ => false

end Multibody.Sim
