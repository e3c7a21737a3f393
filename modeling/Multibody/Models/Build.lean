import Multibody.Body.Assembly
import Multibody.Models.Pendulum
import Multibody.Numeric.Extremum

/-!
# The model library

Builders for the worlds the lab knows, each placing its bodies into an
assembly:

* `pendulum`: a fixed base and one point-mass rod on a revolute joint about `y`;
* `double_pendulum`: two such rods in series, the lower one's angle relative;
* `chain`: `n` rods in series (5 by default), each `1/n` long by default;
* `drone`: a free hub with four massless-joint rotor arms, and a floor;
* `balls`: a floor and `n` free balls (3 by default) stacked in a slope.

Parameters equal to zero take the model's default.
-/

namespace Multibody

/-- Parameters shared by the model builders; zero means "default". -/
structure ModelParams where
  mass : Float := 0.0
  length : Float := 0.0
  damping : Float := 0.0
  theta : Float := 0.0
  theta2 : Float := 0.0
  links : Int := 0
  count : Int := 0
  height : Float := 0.0
  thrust : Float := 0.0
  hover : Bool := false
  deriving Inhabited

/-- The value `v`, or `default` when `v` is zero. -/
def orDefault (v default : Float) : Float := if v == 0.0 then default else v

/-- The device kind of a drone rotor. -/
def rotorKind : String := "rotor"

namespace Assembly

/-- A point mass on a massless rod of `length` below a revolute joint about
`y`, with a collision sphere at the mass and the joint damping as the
`damping` annotation when positive. -/
def pointMassLink (a : Assembly) (name : String) (mass length damping : Float) : Assembly × LinkId :=
  let com : Vec3 := ⟨0.0, 0.0, -length⟩
  let (a, shape) := a.newShape ⟨name, 0.05 + 0.05 * mass, com⟩
  let l : Link := {
    name := name, jointType := .revolute, axis := ⟨0.0, 1.0, 0.0⟩,
    mass := mass, com := com, inertia := Mat3.zero, shape := some shape }
  let l := if damping > 0.0 then l.setInfo "damping" (.num damping) else l
  a.addLink l

/-- Names the model of a body, and starts its joints at their initial positions. -/
def finishModel (a : Assembly) (b : BodyId) (model : String) : Assembly :=
  let a := a.modifyBody b fun bd => { bd with modelName := model }
  match a.initializeState b with
  | .ok a => a
  | .error _ => a

/-- A simple pendulum body. -/
def buildPendulum (a : Assembly) (p : Pendulum) (name : String) : Assembly × BodyId :=
  let (a, base) := a.addLink { name := "base" }
  let (a, rod) := a.pointMassLink "rod" p.mass p.length p.damping
  let a := a.modifyLink rod fun l => { l with qInitial := p.theta }
  let a := a.appendChild base rod
  let (a, b) := a.addBody name (some base)
  (a.finishModel b "pendulum", b)

/-- A double pendulum body; the lower joint starts at the relative angle. -/
def buildDoublePendulum (a : Assembly) (d : DoublePendulum) (name : String) : Assembly × BodyId :=
  let (a, base) := a.addLink { name := "base" }
  let (a, upper) := a.pointMassLink "upper" d.m1 d.l1 0.0
  let a := a.modifyLink upper fun l => { l with qInitial := d.theta1 }
  let (a, lower) := a.pointMassLink "lower" d.m2 d.l2 0.0
  let a := a.modifyLink lower fun l =>
    { l with offset := Mat4.translation 0.0 0.0 (-d.l1), qInitial := d.theta2 - d.theta1 }
  let a := a.appendChild base upper
  let a := a.appendChild upper lower
  let (a, b) := a.addBody name (some base)
  (a.finishModel b "double_pendulum", b)

/-- A chain of `n` equal rods; the first joint starts at `theta`. -/
def buildChain (a : Assembly) (n : Nat) (mass length damping theta : Float) (name : String) :
    Assembly × BodyId :=
  let (a, base) := a.addLink { name := "base" }
  let (a, _) := (List.range n).foldl (fun (a, parent) i =>
    let (a, l) := a.pointMassLink ("link" ++ toString i) mass length damping
    let a := a.modifyLink l fun lk =>
      if i > 0 then { lk with offset := Mat4.translation 0.0 0.0 (-length) }
      else { lk with qInitial := theta }
    (a.appendChild parent l, l)) (a, base)
  let (a, b) := a.addBody name (some base)
  (a.finishModel b "chain", b)

/-- A drone: a free hub of 60% of the mass with four rotor arms of 10% each
at `armLength` along `±x` and `±y`, one rotor device per arm, hovering at
`height`. -/
def buildDrone (a : Assembly) (mass height : Float) (name : String) : Assembly × BodyId :=
  let armLength := 0.25
  let (a, hubShape) := a.newShape ⟨"hub", armLength * 0.5, Vec3.zero⟩
  let (a, hub) := a.addLink {
    name := "hub", jointType := .free, mass := mass * 0.6,
    inertia := Mat3.ident.scale 0.01, shape := some hubShape }
  let arms : List Vec3 := [⟨1.0, 0.0, 0.0⟩, ⟨0.0, 1.0, 0.0⟩, ⟨-1.0, 0.0, 0.0⟩, ⟨0.0, -1.0, 0.0⟩]
  let a := arms.zipIdx.foldl (fun a (dir, i) =>
    let d := dir.scale armLength
    let (a, arm) := a.addLink {
      name := "rotor" ++ toString i,
      offset := Mat4.translation d.x d.y d.z, mass := mass * 0.1, inertia := Mat3.zero }
    a.appendChild hub arm) a
  let (a, b) := a.addBody name (some hub)
  let a := a.modifyBody b fun bd => { bd with modelName := "drone" }
  let a := (List.range 4).foldl (fun a i =>
    let rotor := "rotor" ++ toString i
    let idx := match a.linkByName? b rotor with
      | some l => (a.link l).index
      | none => -1
    a.addDevice b { name := rotor, kind := rotorKind, linkIndex := idx, on := true, values := #[0.0] }) a
  let a := a.modifyLink hub fun l => { l with pose := Mat4.translation 0.0 0.0 height }
  (a.forwardKinematics b, b)

/-- The weight each rotor carries when the drone hovers. -/
def hoverThrust (mass : Float) : Float := mass * standardGravity / 4.0

/-- Radius of the sphere that stands for the floor. -/
def floorRadius : Float := 1000.0

/-- A static floor at height `z`: a huge sphere just below it. -/
def buildFloor (a : Assembly) (name : String) (z : Float) : Assembly × BodyId :=
  let (a, shape) := a.newShape ⟨"floor", floorRadius, ⟨0.0, 0.0, -floorRadius⟩⟩
  let (a, l) := a.addLink { name := "floor", shape := some shape }
  let (a, b) := a.addBody name (some l)
  let a := a.modifyBody b fun bd => { bd with modelName := "floor", staticModel := true }
  (a.modifyLink l fun lk => { lk with pose := Mat4.translation 0.0 0.0 z }, b)

/-- A free solid ball at `pos`. -/
def buildBall (a : Assembly) (name : String) (mass radius : Float) (pos : Vec3) : Assembly × BodyId :=
  let (a, shape) := a.newShape ⟨"ball", radius, Vec3.zero⟩
  let (a, l) := a.addLink {
    name := "ball", jointType := .free, mass := mass,
    inertia := Mat3.ident.scale (0.4 * mass * radius * radius), shape := some shape }
  let (a, b) := a.addBody name (some l)
  let a := a.modifyBody b fun bd => { bd with modelName := "ball" }
  (a.modifyLink l fun lk => { lk with pose := Mat4.translation pos.x pos.y pos.z }, b)

/-- Sets the first value of every rotor device. -/
def setThrust (a : Assembly) (b : BodyId) (thrust : Float) : Assembly :=
  a.modifyBody b fun bd => { bd with devices := bd.devices.map fun d =>
    if d.kind == rotorKind && d.values.size > 0 then { d with values := d.values.set! 0 thrust } else d }

/-- Pushes every switched-on rotor's link along its own `z` axis by the
rotor's first value, negative values counting as zero. -/
def applyRotorThrust (a : Assembly) (b : BodyId) : Assembly :=
  (a.body b).devices.foldl (fun a d =>
    if d.kind != rotorKind || !d.on || d.values.isEmpty then a
    else match a.linkAt? b d.linkIndex with
      | none => a
      | some l =>
        let lk := a.link l
        let thrust := Numeric.fmax 0.0 d.values[0]!
        let up := lk.rotation.apply Vec3.unitZ
        a.setLink l (lk.addExternalForce lk.position (up.scale thrust))) a

/-- Names of the models, sorted. -/
def modelNames : List String := ["balls", "chain", "double_pendulum", "drone", "pendulum"]

/-- The message for a name that names no model. -/
def unknownModelMessage (name : String) : String := "unknown model: " ++ name

/-- Builds the bodies of a named model. -/
def buildModel (a : Assembly) (name : String) (p : ModelParams) : Option (Assembly × List BodyId) :=
  match name with
  | "pendulum" =>
    let (a, b) := a.buildPendulum {
      mass := orDefault p.mass 1.0, length := orDefault p.length 1.0,
      damping := p.damping, theta := p.theta } "pendulum"
    some (a, [b])
  | "double_pendulum" =>
    let m := orDefault p.mass 1.0
    let l := orDefault p.length 1.0
    let (a, b) := a.buildDoublePendulum {
      m1 := m, m2 := m, l1 := l, l2 := l,
      theta1 := p.theta, theta2 := p.theta2 } "double_pendulum"
    some (a, [b])
  | "chain" =>
    let n : Nat := if p.links ≤ 0 then 5 else p.links.toNat
    let length := orDefault p.length (1.0 / Float.ofNat (max n 1))
    let (a, b) := a.buildChain n (orDefault p.mass 1.0) length p.damping p.theta "chain"
    some (a, [b])
  | "drone" =>
    let mass := orDefault p.mass 1.0
    let (a, b) := a.buildDrone mass (orDefault p.height 1.0) "drone"
    let thrust := if p.hover then hoverThrust mass else p.thrust
    let a := a.setThrust b thrust
    let (a, f) := a.buildFloor "floor" 0.0
    some (a, [b, f])
  | "balls" =>
    let n : Nat := if p.count ≤ 0 then 3 else p.count.toNat
    let mass := orDefault p.mass 1.0
    let height := orDefault p.height 1.0
    let (a, f) := a.buildFloor "floor" 0.0
    let (a, bs) := (List.range n).foldl (fun (a, bs) i =>
      let fi := Float.ofNat i
      let (a, b) := a.buildBall ("ball" ++ toString i) mass 0.1 ⟨fi * 0.5, 0.0, height + 0.3 * fi⟩
      (a, bs.push b)) (a, #[])
    some (a, f :: bs.toList)
  | _ => none

end Assembly

end Multibody
