import Multibody.Dynamics.Integrator
import Multibody.Body.Assembly
import Multibody.Collision.Sphere

/-!
# Joint-space dynamics

The equations of motion of an articulated body in its joint coordinates.
Every link is a rigid body at its centre of mass; its Jacobian columns map
joint rates to the link's linear and angular velocity.  With them the mass
matrix `M = Σ m Jvᵀ Jv + Jwᵀ I Jw` and the right-hand side (efforts, joint
damping, the bias of gravity and of the velocity terms, external wrenches)
give the joint accelerations by Gaussian elimination.  The velocity terms
use the Jacobian at `q + ε·dq` as a forward difference of `dJ/dt·dq`.

A free-floating root is moved separately as one rigid body carrying the
whole tree, by semi-implicit Euler.  Penalty contacts push touching links
apart along the contact normal before a step.
-/

namespace Multibody.Dynamics

/-- The step of the forward difference for the velocity terms. -/
def biasEpsilon : Float := 1e-6

/-- The annotation key of a joint's viscous damping coefficient. -/
def dampingKey : String := "damping"

/-- Numbers with a magnitude: elimination picks its pivots by it.  Doubles
take `Float.abs`. -/
class Magnitude (α : Type) where
  abs : α → α

instance : Magnitude Float := ⟨Float.abs⟩

/-- Pivots smaller than this make a matrix singular. -/
def pivotTolerance {α : Type} [OfScientific α] : α := 1e-12

/-! The elimination works in place on a dense row-major `n × n` matrix `a` and
a right-hand side `b`, over any numbers with the field operations, an order
and a magnitude; the program runs it on doubles.  Every read and write is
checked against the array's size, so an index outside it is a fault. -/

section Elimination

variable {α : Type} [OfScientific α] [Sub α] [Mul α] [Div α] [LT α] [DecidableLT α] [BEq α]
  [Magnitude α]

/-- The row from `col` on whose entry in column `col` is largest in magnitude
(the first of equals), with that magnitude. -/
def pivotRow (a : Array α) (n col : Nat) : Except Fault (Nat × α) := do
  let first ← Fault.at a (col * n + col)
  (List.range' (col + 1) (n - (col + 1))).foldlM (fun pb r => do
    let v := Magnitude.abs (← Fault.at a (r * n + col))
    return if v > pb.2 then (r, v) else pb) (col, Magnitude.abs first)

/-- Rows `i` and `j` of the matrix exchanged. -/
def swapRows (a : Array α) (n i j : Nat) : Except Fault (Array α) :=
  (List.range n).foldlM (fun a c => do
    let x ← Fault.at a (i * n + c)
    let y ← Fault.at a (j * n + c)
    let a ← Fault.put a (i * n + c) y
    Fault.put a (j * n + c) x) a

/-- Entries `i` and `j` exchanged. -/
def swapEntries (b : Array α) (i j : Nat) : Except Fault (Array α) := do
  let x ← Fault.at b i
  let y ← Fault.at b j
  let b ← Fault.put b i y
  Fault.put b j x

/-- Row `r` less `f` times row `col`, in the columns from `col` on. -/
def subtractRow (a : Array α) (n col r : Nat) (f : α) : Except Fault (Array α) :=
  (List.range' col (n - col)).foldlM (fun a c => do
    let x ← Fault.at a (r * n + c)
    let y ← Fault.at a (col * n + c)
    Fault.put a (r * n + c) (x - f * y)) a

/-- Clears column `col` below its pivot, and updates the right-hand side with
the same factors; a row whose factor is zero is left alone. -/
def eliminateBelow (a b : Array α) (n col : Nat) : Except Fault (Array α × Array α) := do
  let inv := 1.0 / (← Fault.at a (col * n + col))
  (List.range' (col + 1) (n - (col + 1))).foldlM (fun ab r => do
    let f := (← Fault.at ab.1 (r * n + col)) * inv
    if f == 0.0 then return ab
    let a ← subtractRow ab.1 n col r f
    let br ← Fault.at ab.2 r
    let bc ← Fault.at ab.2 col
    let b ← Fault.put ab.2 r (br - f * bc)
    return (a, b)) (a, b)

/-- One column of forward elimination: the pivot row is swapped into place and
the column cleared below it; `none` when the pivot is negligible. -/
def eliminateColumn (n : Nat) (ab : Array α × Array α) (col : Nat) :
    Except Fault (Option (Array α × Array α)) := do
  let pb ← pivotRow ab.1 n col
  if pb.2 < pivotTolerance then return none
  if pb.1 != col then
    let a ← swapRows ab.1 n col pb.1
    let b ← swapEntries ab.2 col pb.1
    some <$> eliminateBelow a b n col
  else some <$> eliminateBelow ab.1 ab.2 n col

/-- Forward elimination of the first `k` columns; `none` from the first
negligible pivot on. -/
def reduceColumns (a b : Array α) (n k : Nat) : Except Fault (Option (Array α × Array α)) :=
  (List.range k).foldlM (fun acc col => match acc with
    | none => pure none
    | some ab => eliminateColumn n ab col) (some (a, b))

/-- Back substitution from the last row up: each unknown is its row's
right-hand side less the terms of the unknowns already found, over the
diagonal entry. -/
def backSubstitute (a b : Array α) (n : Nat) : Except Fault (Array α) :=
  (List.range n).foldlM (fun b k => do
    let r := n - 1 - k
    let sum ← (List.range' (r + 1) (n - (r + 1))).foldlM (fun s c => do
      return s - (← Fault.at a (r * n + c)) * (← Fault.at b c)) (← Fault.at b r)
    Fault.put b r (sum / (← Fault.at a (r * n + r)))) b

/-- Solves `a · x = b` by Gaussian elimination with partial pivoting: the
solution, or `none` when a pivot is negligible. -/
def solve (a b : Array α) (n : Nat) : Except Fault (Option (Array α)) := do
  match ← reduceColumns a b n n with
  | none => return none
  | some ab => return some (← backSubstitute ab.1 ab.2 n)

end Elimination

/-- What the equations of motion read of one link: its mass, its orientation
and inertia, the world positions of its origin and centre of mass, and the
external force and torque on it; doubles unless said otherwise. -/
structure LinkFrame (α : Type := Float) where
  mass : α
  rotation : Mat3 α
  inertia : Mat3 α
  origin : Vec3 α
  com : Vec3 α
  extForce : Vec3 α
  extTorque : Vec3 α
  deriving Inhabited

/-! The equations of motion are assembled link by link from the Jacobian
columns, `n` per link, over any numbers with the operations they use. -/

section Equations

variable {α : Type} [OfScientific α] [Add α] [Sub α] [Mul α] [Div α] [Inhabited α]

/-- The mass matrix `Σ m Jvᵀ Jv + Jwᵀ (R I Rᵀ) Jw`, row-major, each entry
summed over the links in order. -/
def massMatrix (n : Nat) (links : Array (LinkFrame α)) (jv jw : Array (Vec3 α)) : Array α :=
  (List.range links.size).foldl (fun mass li =>
    let l := links[li]!
    let iw := (l.rotation.mul l.inertia).mul l.rotation.transpose
    (List.range n).foldl (fun mass r => (List.range n).foldl (fun mass c =>
      mass.set! (r * n + c) (mass[r * n + c]! +
        (l.mass * jv[li * n + r]!.dot jv[li * n + c]! + jw[li * n + r]!.dot (iw.apply jw[li * n + c]!))))
      mass) mass) (Array.replicate (n * n) 0.0)

/-- The right-hand side: from `rhs` (efforts less damping), each link takes
off its bias wrench (velocity terms and gravity `g`) and adds its external
wrench, both projected on the joints.  The velocity terms take the columns
`jvd`, `jwd` at `q + ε·dq` as a forward difference. -/
def rightHandSide (n : Nat) (g : Vec3 α) (eps : α) (dq : Array α) (links : Array (LinkFrame α))
    (jv jw jvd jwd : Array (Vec3 α)) (rhs : Array α) : Array α :=
  (List.range links.size).foldl (fun rhs li =>
    let l := links[li]!
    let iw := (l.rotation.mul l.inertia).mul l.rotation.transpose
    let (acc, w, alpha) := (List.range n).foldl (fun (acc, w, alpha) k =>
      (acc + (jvd[li * n + k]! - jv[li * n + k]!).scale (dq[k]! / eps),
       w + jw[li * n + k]!.scale dq[k]!,
       alpha + (jwd[li * n + k]! - jw[li * n + k]!).scale (dq[k]! / eps))) (Vec3.zero, Vec3.zero, Vec3.zero)
    let fBias := acc.scale l.mass - g.scale l.mass
    let tBias := iw.apply alpha + w.cross (iw.apply w)
    let extT := l.extTorque + (l.origin - l.com).cross l.extForce
    (List.range n).foldl (fun rhs r =>
      let rhs := rhs.set! r (rhs[r]! - (jv[li * n + r]!.dot fBias + jw[li * n + r]!.dot tBias))
      rhs.set! r (rhs[r]! + (jv[li * n + r]!.dot l.extForce + jw[li * n + r]!.dot extT))) rhs) rhs

variable [LT α] [DecidableLT α] [BEq α] [Magnitude α]

/-- The accelerations the equations give: the solution of the system, or
zero for every joint when elimination refuses it. -/
def accelerations (mass rhs : Array α) (n : Nat) : Array α :=
  match solve mass rhs n with
  | .ok (some x) => x
  | _ => Array.replicate n 0.0

end Equations

end Multibody.Dynamics

namespace Multibody.Link

/-- What the equations of motion read of a link. -/
def frame (l : Link) : Dynamics.LinkFrame :=
  ⟨l.mass, l.rotation, l.inertia, l.position, l.worldCom, l.extForce, l.extTorque⟩

end Multibody.Link

namespace Multibody.Assembly

/-- Sets the positions of the given joints and recomputes the kinematics. -/
def setJointPositions (a : Assembly) (b : BodyId) (joints : Array LinkId) (q : Array Float) :
    Assembly :=
  let a := (joints.zip q).foldl (fun a (j, x) => a.modifyLink j fun l =>
    { l with joint := { l.joint with q := x } }) a
  a.forwardKinematics b

/-- Writes the Jacobian columns of the actuated joint of link `k` into row
`row`, for a centre of mass at `com`: a revolute joint turns the link about
its axis, a prismatic one slides it along it. -/
def setJointColumns (k : Link) (row : Nat) (com : Vec3) (jv jw : Array Vec3) : Array Vec3 × Array Vec3 :=
  if k.jointId < 0 then (jv, jw)
  else
    let axis := k.rotation.apply k.axis.normalize
    let col := row + k.jointId.toNat
    match k.jointType with
    | .revolute => (jv.set! col (axis.cross (com - k.position)), jw.set! col axis)
    | .prismatic => (jv.set! col axis, jw)
    | _ => (jv, jw)

/-- The walk from `cur` up the parents while they belong to body `b`, writing
the columns of each joint it passes into row `row`. -/
def jacobianWalk (a : Assembly) (b : BodyId) (row : Nat) (com : Vec3) :
    Nat → Option LinkId → Array Vec3 × Array Vec3 → Array Vec3 × Array Vec3
  | 0, _, j => j
  | _ + 1, none, j => j
  | fuel + 1, some id, (jv, jw) =>
    let k := a.link id
    if k.body != some b then (jv, jw)
    else a.jacobianWalk b row com fuel k.parent (setJointColumns k row com jv jw)

/-- The centre-of-mass Jacobian columns of every link of a body, `n` per
link in link order: linear (`Jv`) and angular (`Jw`) parts.  A column is
non-zero for the actuated joints on the path from the link to its body's
root. -/
def jacobians (a : Assembly) (b : BodyId) (n : Nat) : Array Vec3 × Array Vec3 :=
  let links := (a.body b).links
  (List.range links.size).foldl (fun j li =>
    a.jacobianWalk b (li * n) (a.link links[li]!).worldCom (a.links.size + 1) (some links[li]!) j)
    (Array.replicate (links.size * n) Vec3.zero, Array.replicate (links.size * n) Vec3.zero)

/-- The joint accelerations of a body at state `x = [q…, dq…]` under the
efforts `u` and gravity `g`: the rate `[dq…, ddq…]`.  A singular mass matrix
gives zero accelerations. -/
def jointRate (a : Assembly) (b : BodyId) (joints : Array LinkId) (g : Vec3) (x : State)
    (u : Array Float) : Array Float := Id.run do
  let n := joints.size
  let q := x.extract 0 n
  let dq := x.extract n (2 * n)
  let eps := Dynamics.biasEpsilon
  let a1 := a.setJointPositions b joints q
  let (jv, jw) := a1.jacobians b n
  let a2 := a.setJointPositions b joints ((List.range n).toArray.map fun i => q[i]! + eps * dq[i]!)
  let (jvd, jwd) := a2.jacobians b n
  let mut rhs := Array.replicate n 0.0
  for i in [0:n] do
    let tau := u.getD i 0.0
    rhs := rhs.set! i (tau - (a1.link joints[i]!).infoFloat Dynamics.dampingKey 0.0 * dq[i]!)
  let frames := (a1.body b).links.map fun l => (a1.link l).frame
  let mass := Dynamics.massMatrix n frames jv jw
  return dq ++ Dynamics.accelerations mass (Dynamics.rightHandSide n g eps dq frames jv jw jvd jwd rhs) n

/-- Advances the actuated joints of a body by one step of the integrator and
leaves the body at the new state, with the new accelerations.  `none` when
the new state is not finite. -/
def stepJoints (a : Assembly) (b : BodyId) (integ : Integrator) (g : Vec3) (t dt : Float) :
    Except Fault (Option Assembly) := do
  let joints := (a.body b).joints
  let n := joints.size
  if n = 0 then return some a
  let ls := joints.map a.link
  let x := ls.map (·.joint.q) ++ ls.map (·.joint.dq)
  let u := ls.map fun l => l.limits.clampEffort l.joint.u
  let f : Derivative := fun x u _ => .ok (a.jointRate b joints g x u)
  let next ← integ.step f x u t dt
  if !State.isValid next then return none
  let dx := a.jointRate b joints g next u
  let a := (List.range n).foldl (fun a i => a.modifyLink joints[i]! fun l =>
    { l with joint := { l.joint with q := next[i]!, dq := next[n + i]!, ddq := dx.getD (n + i) 0.0 } }) a
  return some (a.setJointPositions b joints (next.extract 0 n))

/-- Moves a free root as one rigid body under gravity and the external
wrenches of all links, by semi-implicit Euler; the tree follows.  `false`
when the new pose or rates are not finite. -/
def stepFreeRoot (a : Assembly) (b : BodyId) (g : Vec3) (dt : Float) : Except Fault (Assembly × Bool) := do
  let r ← a.rootOf b
  let m := a.totalMass b
  if m ≤ 0.0 then return (a, true)
  let com ← a.centerOfMass b
  let links := (a.body b).links.map a.link
  let (force, torque) := links.foldl (fun (f, t) l =>
    (f + l.extForce, (t + l.extTorque) + (l.position - com).cross l.extForce)) (g.scale m, Vec3.zero)
  let root := a.link r
  let v := root.v + force.scale (dt / m)
  let rot := root.rotation
  let inertia := (rot.mul root.inertia).mul rot.transpose
  let w := if inertia.det != 0.0 then root.w + (inertia.inv.apply torque).scale dt else root.w
  let pos := root.position + v.scale dt
  let angle := w.length * dt
  let rot := if angle > 0.0 then (Mat4.rotation angle w.normalize).rotationPart.mul rot else rot
  let pose := (Mat4.ofMat3 rot).withTranslation pos 1.0
  let a := a.modifyLink r fun l => { l with v := v, w := w, pose := pose }
  let a := a.forwardKinematics b
  let ok := [pos.x, pos.y, pos.z, v.length, w.length].all Decimal.isFinite
  return (a, ok)

/-- Whether a link belongs to a static body. -/
def staticLink (a : Assembly) (l : LinkId) : Bool :=
  match (a.link l).body with
  | some bd => a.isStaticModel bd
  | none => false

/-- Penalty forces of the contacts: the spring force `stiffness · depth`
along the normal pushes the second link and pulls the first, each only when
its body is not static. -/
def applyContacts (a : Assembly) (pairs : Array LinkPair) (stiffness : Float) : Assembly :=
  pairs.foldl (fun a p => p.contacts.foldl (fun a c =>
    if c.depth ≤ 0.0 then a
    else
      let f := c.normal.scale (stiffness * c.depth)
      let staticOf := a.staticLink
      let a := if !staticOf p.linkB then a.modifyLink p.linkB (·.addExternalForce c.point f) else a
      if !staticOf p.linkA then a.modifyLink p.linkA (·.addExternalForce c.point (f.scale (-1.0)))
      else a) a) a

end Multibody.Assembly
