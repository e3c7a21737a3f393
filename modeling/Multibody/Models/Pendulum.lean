import Multibody.Dynamics.Integrator
import Multibody.Numeric.Circular

/-!
# The simple pendulum in closed form

A point mass on a massless rod, pivoting in a plane under gravity with viscous
damping at the pivot.  The state is `(θ, ω)`, the control is one torque, and

* angular acceleration: `(-d·ω - m·g·L·sin θ + τ) / (m·L²)`,
* energy: `½·m·L²·ω² - m·g·L·cos θ`,
* small-angle period: `2π·√(L/g)`.

The parameters, states and rates are numbers of any type with the field
operations and the circular functions; the program runs them on doubles.
-/

namespace Multibody

/-- Standard gravity. -/
def standardGravity {α : Type} [OfScientific α] : α := 9.80665

/-- Parameters of a simple pendulum. -/
structure Pendulum (α : Type := Float) [OfScientific α] where
  mass : α := 1.0
  length : α := 1.0
  damping : α := 0.0
  gravity : α := standardGravity
  theta : α := 0.0
  deriving Inhabited

section Closed

variable {α : Type} [OfScientific α] [Add α] [Sub α] [Mul α] [Div α] [Neg α] [CircularFunctions α]

namespace Pendulum

/-- The rate of `(θ, ω)` under the torque `u[0]` (zero when absent). -/
def derive (p : Pendulum α) (x : Array α) (u : Array α) (_t : α) : Except Fault (Array α) := do
  let theta ← Fault.at x 0
  let omega ← Fault.at x 1
  let torque := u.getD 0 0.0
  let alpha := (-p.damping * omega - p.mass * p.gravity * p.length * CircularFunctions.sin theta +
    torque) / (p.mass * p.length * p.length)
  return #[omega, alpha]

/-- Kinetic plus potential energy, the pivot at height zero. -/
def energy (p : Pendulum α) (x : Array α) : Except Fault α := do
  let theta ← Fault.at x 0
  let omega ← Fault.at x 1
  let ke := 0.5 * p.mass * p.length * p.length * omega * omega
  let pe := -p.mass * p.gravity * p.length * CircularFunctions.cos theta
  return ke + pe

end Pendulum

/-- Parameters of a double pendulum: two point masses on massless rods. -/
structure DoublePendulum (α : Type := Float) [OfScientific α] where
  m1 : α := 1.0
  m2 : α := 1.0
  l1 : α := 1.0
  l2 : α := 1.0
  gravity : α := standardGravity
  theta1 : α := 0.0
  theta2 : α := 0.0
  deriving Inhabited

namespace DoublePendulum

/-- Absolute angles and rates from the upper angle and the relative lower angle. -/
def absoluteState (q1 q2 dq1 dq2 : α) : Array α := #[q1, q1 + q2, dq1, dq1 + dq2]

/-- The rate of `(θ₁, θ₂, ω₁, ω₂)`, absolute angles, with the torque `u[0]`
acting on the upper rod. -/
def derive (d : DoublePendulum α) (x : Array α) (u : Array α) (_t : α) : Except Fault (Array α) := do
  let theta1 ← Fault.at x 0
  let theta2 ← Fault.at x 1
  let omega1 ← Fault.at x 2
  let omega2 ← Fault.at x 3
  let m1 := d.m1
  let m2 := d.m2
  let l1 := d.l1
  let l2 := d.l2
  let g := d.gravity
  let delta := theta2 - theta1
  let sinD := CircularFunctions.sin delta
  let cosD := CircularFunctions.cos delta
  let tau := u.getD 0 0.0
  let den1 := (m1 + m2) * l1 - m2 * l1 * cosD * cosD
  let den2 := (l2 / l1) * den1
  let alpha1 := (m2 * l1 * omega1 * omega1 * sinD * cosD +
      m2 * g * CircularFunctions.sin theta2 * cosD +
      m2 * l2 * omega2 * omega2 * sinD -
      (m1 + m2) * g * CircularFunctions.sin theta1 + tau) / den1
  let alpha2 := (-m2 * l2 * omega2 * omega2 * sinD * cosD +
      (m1 + m2) * g * CircularFunctions.sin theta1 * cosD -
      (m1 + m2) * l1 * omega1 * omega1 * sinD -
      (m1 + m2) * g * CircularFunctions.sin theta2) / den2
  return #[omega1, omega2, alpha1, alpha2]

/-- Kinetic plus potential energy, the pivot at height zero. -/
def energy (d : DoublePendulum α) (x : Array α) : Except Fault α := do
  let theta1 ← Fault.at x 0
  let theta2 ← Fault.at x 1
  let omega1 ← Fault.at x 2
  let omega2 ← Fault.at x 3
  let m1 := d.m1
  let m2 := d.m2
  let l1 := d.l1
  let l2 := d.l2
  let g := d.gravity
  let v1sq := l1 * l1 * omega1 * omega1
  let v2sq := l1 * l1 * omega1 * omega1 + l2 * l2 * omega2 * omega2 +
    2.0 * l1 * l2 * omega1 * omega2 * CircularFunctions.cos (theta1 - theta2)
  let ke := 0.5 * m1 * v1sq + 0.5 * m2 * v2sq
  let y1 := -l1 * CircularFunctions.cos theta1
  let y2 := y1 - l2 * CircularFunctions.cos theta2
  let pe := m1 * g * y1 + m2 * g * y2
  return ke + pe

end DoublePendulum

end Closed

namespace Pendulum

/-- Twice π, rounded once. -/
def twoPi : Float := 6.283185307179586

/-- Period of small oscillations. -/
def smallAnglePeriod (p : Pendulum) : Float := twoPi * (p.length / p.gravity).sqrt

end Pendulum

end Multibody
