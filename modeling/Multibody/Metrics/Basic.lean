import Multibody.Body.Assembly
import Multibody.Numeric.Extremum

/-!
# Run metrics

Quantities accumulated over the frames of a run, one observation per frame:

* `energy`: the mean mechanical energy;
* `energy_drift`: the largest relative departure from the first observed
  energy (zero while that energy is zero);
* `control_effort`: the mean over frames of the summed absolute joint efforts;
* `stability`: the fraction of frames in which no joint position or rate
  exceeds the threshold in magnitude (1 before any frame).

Mechanical energy uses link velocities by finite difference: every joint is
advanced by `1e-6` times its rate, the kinematics recomputed, and the moved
centres of mass compared with the old ones; the root velocity is added.
-/

namespace Multibody

/-- The step of the finite difference for link velocities. -/
def velocityEpsilon : Float := 1e-6

namespace Assembly

/-- Kinetic plus potential energy of a body under gravity `g`.  The
kinematics are recomputed afterwards, so stale link transforms are refreshed. -/
def mechanicalEnergy (a : Assembly) (b : BodyId) (g : Vec3) : Except Fault (Assembly × Float) := do
  let bd := a.body b
  let pos := bd.links.map fun l => (a.link l).worldCom
  let qs := bd.joints.map fun j => (a.link j).joint.q
  let a1 := bd.joints.foldl (fun a j => a.modifyLink j fun l =>
    { l with joint := { l.joint with q := l.joint.q + velocityEpsilon * l.joint.dq } }) a
  let a1 := a1.forwardKinematics b
  let r ← a1.rootOf b
  let rootV := (a1.link r).v
  let energy := (bd.links.zip pos).foldl (fun e (l, p) =>
    let lk := a1.link l
    let v := ((lk.worldCom - p).scale (1.0 / velocityEpsilon)) + rootV
    e + (0.5 * lk.mass * v.dot v - lk.mass * g.dot p)) 0.0
  let a2 := (bd.joints.zip qs).foldl (fun a (j, q) => a.modifyLink j fun l =>
    { l with joint := { l.joint with q := q } }) a1
  return (a2.forwardKinematics b, energy)

end Assembly

/-- A metric and what it has accumulated. -/
inductive Metric where
  | energy (gravity : Vec3) (total : Float) (samples : Nat)
  | energyDrift (gravity : Vec3) (initial maxDrift : Float) (samples : Nat)
  | controlEffort (sum : Float) (samples : Nat)
  | stability (threshold : Float) (violations samples : Nat)
  deriving Inhabited

namespace Metric

/-- The stability threshold used by default. -/
def defaultThreshold : Float := 100.0

/-- The metric's name. -/
def name : Metric → String
  | .energy .. => "energy"
  | .energyDrift .. => "energy_drift"
  | .controlEffort .. => "control_effort"
  | .stability .. => "stability"

/-- A fresh metric of a kind name. -/
def ofKind? (kind : String) (g : Vec3) (threshold : Float) : Option Metric :=
  match kind with
  | "energy" => some (.energy g 0.0 0)
  | "energy_drift" => some (.energyDrift g 0.0 0.0 0)
  | "control_effort" => some (.controlEffort 0.0 0)
  | "stability" => some (.stability threshold 0 0)
  | _ => none

/-- The default set, in order. -/
def defaults (g : Vec3) : List Metric :=
  [.energy g 0.0 0, .energyDrift g 0.0 0.0 0, .controlEffort 0.0 0, .stability defaultThreshold 0 0]

/-- Accumulates one observation of a body. -/
def observe (m : Metric) (a : Assembly) (b : BodyId) : Except Fault (Assembly × Metric) := do
  let joints := (a.body b).joints.map a.link
  match m with
  | .energy g total n =>
    let (a, e) ← a.mechanicalEnergy b g
    return (a, .energy g (total + e) (n + 1))
  | .energyDrift g initial maxDrift n =>
    let (a, e) ← a.mechanicalEnergy b g
    let initial := if n == 0 then e else initial
    let maxDrift :=
      if initial != 0.0 then Numeric.fmax maxDrift ((e - initial).abs / initial.abs) else maxDrift
    return (a, .energyDrift g initial maxDrift (n + 1))
  | .controlEffort sum n =>
    return (a, .controlEffort (joints.foldl (fun s j => s + j.joint.u.abs) sum) (n + 1))
  | .stability th v n =>
    let bad := joints.any fun j => j.joint.q.abs > th || j.joint.dq.abs > th
    return (a, .stability th (if bad then v + 1 else v) (n + 1))

/-- The metric's current value. -/
def value : Metric → Float
  | .energy _ total n => if n == 0 then 0.0 else total / Float.ofNat n
  | .energyDrift _ _ d _ => d
  | .controlEffort sum n => if n == 0 then 0.0 else sum / Float.ofNat n
  | .stability _ v n => if n == 0 then 1.0 else 1.0 - Float.ofNat v / Float.ofNat n

/-- The metric with nothing accumulated. -/
def reset : Metric → Metric
  | .energy g _ _ => .energy g 0.0 0
  | .energyDrift g _ _ _ => .energyDrift g 0.0 0.0 0
  | .controlEffort _ _ => .controlEffort 0.0 0
  | .stability th _ _ => .stability th 0 0

end Metric

end Multibody
