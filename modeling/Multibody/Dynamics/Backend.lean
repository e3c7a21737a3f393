import Multibody.Dynamics.JointSpace

/-!
# The stepping engine

The engine advances the active bodies of a run by one time step: penalty
contacts first, then for each body its free root (if it has one) and its
joints.  A scripted engine wraps it to refuse a run, fail a step or break
down at given calls, for exercising the simulator's failure handling.
Breakdowns are the `Except String` errors, carrying their message.
-/

namespace Multibody.Dynamics

/-- The default gravity, in metres per second squared. -/
def defaultGravity : Vec3 := ⟨0.0, 0.0, -9.80665⟩

/-- The default contact spring constant. -/
def defaultStiffness : Float := 1e4

/-- The joint-space engine and its per-run state. -/
structure JointSpace where
  integrator : Integrator := .rk4
  gravity : Vec3 := defaultGravity
  contacts : Bool := false
  stiffness : Float := defaultStiffness
  dt : Float := 0.0
  pairs : Array LinkPair := #[]
  steps : Nat := 0
  deriving Inhabited

namespace JointSpace

/-- Prepares a run; the time step is taken from the first body when there is one. -/
def begin (j : JointSpace) (timeStep? : Option Float) : JointSpace :=
  { j with dt := timeStep?.getD j.dt, pairs := #[], steps := 0 }

/-- One step of the active bodies at time `t`; `false` when a body's state
stops being finite. -/
def advance (j : JointSpace) (a : Assembly) (active : Array BodyId) (t : Float) :
    Except Fault (Assembly × JointSpace × Bool) := do
  let mut a := if j.contacts then a.applyContacts j.pairs j.stiffness else a
  for b in active do
    let r ← a.rootOf b
    let root := a.link r
    if root.jointType == .free && !a.hasParentBody root then
      let (a', ok) ← a.stepFreeRoot b j.gravity j.dt
      a := a'
      if !ok then return (a, j, false)
    match ← a.stepJoints b j.integrator j.gravity t j.dt with
    | some a' => a := a'
    | none => return (a, j, false)
  return (a, { j with steps := j.steps + 1 }, true)

end JointSpace

/-- When a scripted engine deviates, counting steps from zero after each run
preparation. -/
structure Script where
  reject : Bool := false
  breaksOnInit : Bool := false
  failAt : Int := -1
  breakAt : Int := -1
  calls : Nat := 0
  deriving Inhabited

/-- An engine, optionally scripted. -/
structure Backend where
  engine : JointSpace
  script : Option Script := none
  deriving Inhabited

namespace Backend

/-- Prepares a run; `false` refuses it. -/
def begin (bk : Backend) (timeStep? : Option Float) : Except String (Backend × Bool) :=
  match bk.script with
  | some s =>
    if s.breaksOnInit then .error "stub backend init panic"
    else if s.reject then .ok (bk, false)
    else .ok ({ engine := bk.engine.begin timeStep?, script := some { s with calls := 0 } }, true)
  | none => .ok ({ bk with engine := bk.engine.begin timeStep? }, true)

/-- One step; `false` ends the run as failed. -/
def advance (bk : Backend) (a : Assembly) (active : Array BodyId) (t : Float) :
    Except String (Assembly × Backend × Bool) := do
  let bk ← match bk.script with
    | some s =>
      let n : Int := s.calls
      let bk := { bk with script := some { s with calls := s.calls + 1 } }
      if n == s.breakAt then throw "stub backend step panic"
      else if n == s.failAt then return (a, bk, false)
      else pure bk
    | none => pure bk
  match bk.engine.advance a active t with
  | .ok (a, e, ok) => return (a, { bk with engine := e }, ok)
  | .error f => throw f.message

/-- The gravity the engine applies. -/
def gravity (bk : Backend) : Vec3 := bk.engine.gravity

/-- Whether the engine applies contact forces. -/
def wantsContacts (bk : Backend) : Bool := bk.engine.contacts

/-- Hands the contacts of the coming step to the engine. -/
def setContacts (bk : Backend) (pairs : Array LinkPair) : Backend :=
  { bk with engine := { bk.engine with pairs := pairs } }

/-- Drops the per-run state after a run. -/
def finish (bk : Backend) : Backend :=
  { bk with engine := { bk.engine with pairs := #[] } }

end Backend

end Multibody.Dynamics
