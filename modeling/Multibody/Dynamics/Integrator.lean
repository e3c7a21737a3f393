import Multibody.Fault
import Multibody.Decimal.Binary64

/-!
# Ordinary differential equations and their integrators

A first-order system is a derivative function `f x u t` on states, arrays of
doubles.  Three fixed-step schemes advance it:

* `euler`: `x + dt · f(x)`;
* `symplectic` (semi-implicit Euler): the second half of the state (the
  velocities) is advanced first and the new velocities advance the first half;
* `rk4`: the classical fourth-order Runge–Kutta step, with the stage sums
  `x + (dt/2) k` and the weights `(k1 + 2 k2 + 2 k3 + k4) · dt/6`.

A derivative shorter than the state is read as zero beyond its end by `rk4`,
and as an index fault by the two Euler schemes.
-/

namespace Multibody

/-- A state of a first-order system. -/
abbrev State := Array Float

/-- Whether no component is NaN or infinite. -/
def State.isValid (x : State) : Bool := x.all Decimal.isFinite

/-- A derivative function: state, control and time to the state's rate. -/
abbrev Derivative := State → Array Float → Float → Except Fault State

/-- The fixed-step integration schemes. -/
inductive Integrator where
  | euler
  | symplectic
  | rk4
  deriving Repr, BEq, DecidableEq, Inhabited

namespace Integrator

/-- Names in sorted order. -/
def names : List String := ["euler", "rk4", "symplectic"]

/-- The scheme of a name. -/
def ofName? (name : String) : Option Integrator :=
  match name with
  | "euler" => some .euler
  | "symplectic" => some .symplectic
  | "rk4" => some .rk4
  | _ => none

/-- The message for a name that names no scheme. -/
def unknownMessage (name : String) : String := "unknown integrator: " ++ name

/-- The list `xs` cut or padded with zeros to length `n`. -/
def fit (xs : Array Float) (n : Nat) : Array Float :=
  (Array.range n).map fun i => xs.getD i 0.0

/-- One explicit Euler step. -/
def eulerStep (f : Derivative) (x : State) (u : Array Float) (t dt : Float) : Except Fault State := do
  let dx ← f x u t
  let mut out := #[]
  for i in [0:x.size] do
    let d ← Fault.at dx i
    out := out.push (x[i]! + dt * d)
  return out

/-- One semi-implicit Euler step: velocities first, then positions with the
new velocities.  An odd last component is left at zero. -/
def symplecticStep (f : Derivative) (x : State) (u : Array Float) (t dt : Float) :
    Except Fault State := do
  let n := x.size
  let half := n / 2
  let dx ← f x u t
  let mut out := Array.replicate n 0.0
  for i in [0:half] do
    let d ← Fault.at dx (half + i)
    let v := x[half + i]! + dt * d
    out := (out.set! (half + i) v).set! i (x[i]! + dt * v)
  return out

/-- One classical Runge–Kutta step. -/
def rk4Step (f : Derivative) (x : State) (u : Array Float) (t dt : Float) : Except Fault State := do
  let n := x.size
  let stage (k : Array Float) (h : Float) : State :=
    (Array.range n).map fun i => x[i]! + h * k[i]!
  let k1 := fit (← f x u t) n
  let k2 := fit (← f (stage k1 (dt * 0.5)) u (t + dt * 0.5)) n
  let k3 := fit (← f (stage k2 (dt * 0.5)) u (t + dt * 0.5)) n
  let k4 := fit (← f (stage k3 dt) u (t + dt)) n
  let dt6 := dt / 6.0
  return (Array.range n).map fun i =>
    x[i]! + dt6 * (k1[i]! + 2.0 * k2[i]! + 2.0 * k3[i]! + k4[i]!)

/-- One step of a scheme. -/
def step (integ : Integrator) (f : Derivative) (x : State) (u : Array Float) (t dt : Float) :
    Except Fault State :=
  match integ with
  | .euler => eulerStep f x u t dt
  | .symplectic => symplecticStep f x u t dt
  | .rk4 => rk4Step f x u t dt

end Integrator

end Multibody
