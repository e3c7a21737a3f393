import Multibody.Api.Fields
import Multibody.Models.Pendulum

/-!
# The `ode` request

Integrates a closed-form pendulum or double pendulum for a number of steps
and reports the states at every `every`-th step and the last one, with their
energies.
-/

namespace Multibody.Api

/-- A closed-form system with its derivative, energy and dimensions. -/
structure ClosedForm where
  derive : Derivative
  energy : State → Except Fault Float
  stateDim : Nat
  controlDim : Nat
  period : Option Float

/-- The system a request describes. -/
def closedFormOf (sys : Json) : Reply ClosedForm := do
  let kind ← str sys "kind" "pendulum"
  if kind == "double_pendulum" then
    let d : DoublePendulum := {
      m1 := ← float sys "m1" 1.0, m2 := ← float sys "m2" 1.0,
      l1 := ← float sys "l1" 1.0, l2 := ← float sys "l2" 1.0,
      gravity := ← float sys "gravity" standardGravity }
    return ⟨d.derive, d.energy, 4, 1, none⟩
  else if kind == "pendulum" then
    let p : Pendulum := {
      mass := ← float sys "mass" 1.0, length := ← float sys "length" 1.0,
      damping := ← float sys "damping" 0.0, gravity := ← float sys "gravity" standardGravity }
    return ⟨p.derive, p.energy, 2, 1, some p.smallAnglePeriod⟩
  else throw (badInput ("unknown system kind " ++ kind))

/-- Steps the system, keeping the states whose step number is a multiple of
`every`, and the last. -/
def integrate (integ : Integrator) (f : Derivative) (x0 : State) (u : Array Float)
    (t0 dt : Float) (steps every : Nat) : Except Fault (State × List (Nat × State)) := do
  let mut x := x0
  let mut kept : Array (Nat × State) := #[]
  for i in [1:steps + 1] do
    x ← integ.step f x u (t0 + Float.ofNat (i - 1) * dt) dt
    if i % every == 0 || i == steps then
      kept := kept.push (i, x)
  return (x, kept.toList)

/-- Answers an `ode` request. -/
def odeAnswer (req : Json) : Reply Json := do
  let sys ← closedFormOf (object req "system")
  let name ← str req "integrator" "rk4"
  let integ ← match Integrator.ofName? name with
    | some i => pure i
    | none => throw (failure "integrator" (Integrator.unknownMessage name))
  let x0 ← floats req "x0" #[]
  let x0 : State ← match ← floats? req "absolute" with
    | some a => pure (DoublePendulum.absoluteState (a.getD 0 0.0) (a.getD 1 0.0) (a.getD 2 0.0) (a.getD 3 0.0))
    | none => pure x0
  let u ← floats req "u" #[]
  let t0 ← float req "t0" 0.0
  let dt ← float req "dt" 0.001
  let steps ← nat req "steps" 0
  let every ← int req "every" 1
  let derive0 ← ofFault (sys.derive x0 u t0)
  let energy0 ← ofFault (sys.energy x0)
  if every ≤ 0 ∧ steps > 0 then throw (faultAnswer (.raised "runtime error: integer divide by zero"))
  let (x, kept) ← ofFault (integrate integ sys.derive x0 u t0 dt steps every.toNat)
  let energies ← ofFault (kept.mapM fun (_, s) => sys.energy s)
  return .obj [
    ("state_dim", .int sys.stateDim), ("control_dim", .int sys.controlDim),
    ("x0", floatsJson x0), ("derive0", floatsJson derive0), ("energy0", .num energy0),
    ("valid0", .bool x0.isValid), ("valid", .bool x.isValid),
    ("period", Json.opt .num sys.period),
    ("states", .arr (kept.map fun (i, s) => .obj [("step", .int i), ("x", floatsJson s)])),
    ("energies", Json.ofFloats energies)]

end Multibody.Api
