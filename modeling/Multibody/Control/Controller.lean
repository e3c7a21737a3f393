import Multibody.Control.Options
import Multibody.Body.Assembly
import Multibody.Failure
import Multibody.Dynamics.Integrator

/-!
# Controllers

A controller reads a body's joint state, computes efforts and writes them,
clamped to the limits.  The laws: `passive` (zero), `pid` (one target,
derivative on the measurement), `manual` (set from outside, for a
duration), `lqr` (`u = -K (x - target)`), and `scripted`, which fails,
finishes or breaks down at given calls.  A controller counts its
initializations and stops.
-/

namespace Multibody.Control

/-- PID gains and target. -/
structure PidGains where
  kp : Float
  ki : Float
  kd : Float
  target : Float
  deriving Inhabited

/-- When a scripted controller deviates, counting `control` calls from zero. -/
structure Script where
  init : Bool := true
  breaksOnInit : Bool := false
  failAt : Int := -1
  doneAt : Int := -1
  breakAt : Int := -1
  effort : Float := 0.0
  deriving Inhabited

/-- A control law with its constants. -/
inductive Law where
  | passive
  | pid (g : PidGains)
  | manual (duration : Float)
  | lqr (gains : Array (Array Float)) (target : Array Float)
  | scripted (s : Script)
  deriving Inhabited

/-- The law's name. -/
def Law.name : Law → String
  | .passive => "none"
  | .pid _ => "pid"
  | .manual _ => "manual"
  | .lqr _ _ => "lqr"
  | .scripted _ => "stub"

/-- Parameters for building a controller by name. -/
structure Params where
  kp : Float := 0.0
  ki : Float := 0.0
  kd : Float := 0.0
  target : Float := 0.0
  duration : Float := 0.0
  gains : Array (Array Float) := #[]
  deriving Inhabited

/-- Gains of the single pendulum's balancing law. -/
def pendulumGains : Array (Array Float) := #[#[31.62, 10.0]]

/-- Gains of the double pendulum's balancing law. -/
def doublePendulumGains : Array (Array Float) :=
  #[#[50.0, 40.0, 15.0, 10.0], #[10.0, 35.0, 4.0, 8.0]]

/-- The controller names, sorted. -/
def names : List String := ["lqr", "lqr_double", "manual", "none", "pid"]

/-- The law of a controller name. -/
def Law.ofName? (name : String) (p : Params) : Option Law :=
  match name with
  | "none" => some .passive
  | "pid" => some (.pid ⟨p.kp, p.ki, p.kd, p.target⟩)
  | "manual" => some (.manual p.duration)
  | "lqr" => some (if p.gains.isEmpty then .lqr pendulumGains #[0.0, 0.0] else .lqr p.gains #[])
  | "lqr_double" => some (.lqr doublePendulumGains #[0.0, 0.0, 0.0, 0.0])
  | _ => none

/-- The message for a name that names no controller. -/
def unknownMessage (name : String) : String := "unknown controller: " ++ name

/-- PID gains after the option string: each valid option replaces its gain. -/
def PidGains.withOptions (g : PidGains) (options : String) : PidGains :=
  let opts := parseOptions options
  let pick (key : String) (v : Float) : Float := (optionFloat? opts key v).getD v
  { kp := pick "kp" g.kp, ki := pick "ki" g.ki, kd := pick "kd" g.kd,
    target := pick "target" g.target }

/-- What a controller sees of its run. -/
structure Env where
  options : String
  timeStep : Float
  time : Float

/-- A controller: its law and what it keeps between calls. -/
structure Controller where
  law : Law
  /-- the joints driven, fixed when the controller is initialized -/
  joints : Array LinkId := #[]
  q : Array Float := #[]
  dq : Array Float := #[]
  u : Array Float := #[]
  integral : Array Float := #[]
  /-- the state vector of the `lqr` law -/
  state : Array Float := #[]
  /-- efforts set from outside for the `manual` law -/
  requested : Array Float := #[]
  start : Float := 0.0
  begun : Bool := false
  calls : Nat := 0
  /-- how many times it was initialized successfully, and stopped -/
  inits : Nat := 0
  stops : Nat := 0
  deriving Inhabited

namespace Controller

/-- A fresh controller of a law. -/
def ofLaw (law : Law) : Controller := { law := law }

/-- The controller's name. -/
def name (c : Controller) : String := c.law.name

/-- Binds the controller to the joints of a body, with zero buffers. -/
def attach (c : Controller) (a : Assembly) (b : BodyId) : Controller :=
  let js := (a.body b).joints
  let zero := Array.replicate js.size 0.0
  { c with joints := js, q := zero, dq := zero, u := zero }

/-- Binds the controller to a run.  `false` means it cannot drive the body:
a PID without joints, or LQR gains whose shape does not fit the joints. -/
def prepare (c : Controller) (a : Assembly) (b : BodyId) (env : Env) :
    Except String (Controller × Bool) :=
  match c.law with
  | .passive => .ok (c.attach a b, true)
  | .pid g =>
    let c := { c.attach a b with law := .pid (g.withOptions env.options) }
    if c.joints.isEmpty then .ok (c, false)
    else .ok ({ c with integral := Array.replicate c.joints.size 0.0 }, true)
  | .manual _ => .ok ({ c.attach a b with begun := false }, true)
  | .lqr k _ =>
    let c := c.attach a b
    let n := c.joints.size
    if k.size != n then .ok (c, false)
    else if k.any (·.size != 2 * n) then .ok (c, false)
    else .ok ({ c with state := Array.replicate (2 * n) 0.0 }, true)
  | .scripted s =>
    if s.breaksOnInit then .error "stub controller init panic"
    else .ok ({ c.attach a b with calls := 0 }, s.init)

/-- A successful initialization, counted. -/
def initialized (c : Controller) : Controller := { c with inits := c.inits + 1 }

/-- Ends the controller's part in a run.  The laws here hold nothing to
release, so stopping only counts the call. -/
def stop (c : Controller) : Controller := { c with stops := c.stops + 1 }

/-- Reads the joint state (or the requested efforts, for `manual`). -/
def input (c : Controller) (a : Assembly) : Controller :=
  let read (c : Controller) : Controller :=
    { c with q := c.joints.map (a.link · |>.joint.q), dq := c.joints.map (a.link · |>.joint.dq) }
  match c.law with
  | .pid _ => read c
  | .lqr _ _ =>
    let c := read c
    { c with state := c.q ++ c.dq }
  | .manual _ => { c with u := c.u.mapIdx fun i _ => c.requested.getD i 0.0 }
  | _ => c

/-- Computes the efforts.  The failure is `controllerDone` when the
controller has finished, or why it cannot go on. -/
def control (c : Controller) (env : Env) : Except String (Controller × Option Failure) :=
  match c.law with
  | .passive => .ok (c, none)
  | .pid g =>
    let dt := env.timeStep
    let step := fun (acc : Array Float × Array Float) (i : Nat) =>
      let (integral, u) := acc
      let err := g.target - c.q[i]!
      let integral := integral.set! i (integral[i]! + err * dt)
      (integral, u.set! i (g.kp * err + g.ki * integral[i]! - g.kd * c.dq[i]!))
    let (integral, u) := (List.range c.q.size).foldl step (c.integral, c.u)
    .ok ({ c with integral := integral, u := u }, none)
  | .manual duration =>
    let now := env.time
    let c := if c.begun then c else { c with start := now, begun := true }
    if duration > 0.0 && now - c.start ≥ duration then
      .ok ({ c with u := c.u.map fun _ => 0.0 }, some (.condition .controllerDone))
    else .ok (c, none)
  | .lqr k target =>
    if !State.isValid c.state then .ok (c, some (.condition .invalidState))
    else
      let u := c.u.mapIdx fun i _ =>
        let row := k[i]!
        (List.range c.state.size).foldl (fun acc j =>
          acc - row[j]! * (c.state[j]! - target.getD j 0.0)) 0.0
      .ok ({ c with u := u }, none)
  | .scripted s =>
    let n : Int := c.calls
    let c := { c with calls := c.calls + 1 }
    if n == s.breakAt then .error "stub controller panic"
    else if n == s.failAt then .ok (c, some (.note "stub controller failure"))
    else if n == s.doneAt then .ok (c, some (.condition .controllerDone))
    else .ok (c, none)

/-- Writes the efforts to the joints, clamped to each joint's limits. -/
def output (c : Controller) (a : Assembly) : Assembly :=
  match c.law with
  | .scripted s =>
    c.joints.foldl (fun a j => a.modifyLink j fun l =>
      { l with joint := { l.joint with u := l.limits.clampEffort s.effort } }) a
  | _ =>
    (c.joints.zip c.u).foldl (fun a (j, u) => a.modifyLink j fun l =>
      { l with joint := { l.joint with u := l.limits.clampEffort u } }) a

/-- Whether a control result lets the efforts be written. -/
def writesOutput (r : Option Failure) : Bool :=
  match r with
  | none => true
  | some f => f.has .controllerDone

/-- Sets the efforts a `manual` controller applies from its next input. -/
def setRequested (c : Controller) (u : Array Float) : Controller :=
  match c.law with
  | .manual _ => { c with requested := u }
  | _ => c

/-- Clears a PID controller's integral terms. -/
def resetIntegral (c : Controller) : Controller :=
  match c.law with
  | .pid _ => { c with integral := c.integral.map fun _ => 0.0 }
  | _ => c

end Controller

end Multibody.Control
