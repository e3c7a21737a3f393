import Multibody.Geometry.Quat
import Multibody.Json.Basic

/-!
# Links

A link is one rigid piece of an articulated body: the joint that connects it
to its parent, its place relative to the parent (`offset`), its current world
transform, its mass properties, the external force acting on it this step and
an optional collision sphere.  Everything here concerns one link alone; the
tree that joins links is in `Body.Assembly`.
-/

namespace Multibody

/-- The kind of a joint.  Codes 0 to 4 name the known kinds; a joint built
from any other code keeps that code and has no name. -/
inductive JointType where
  | revolute
  | prismatic
  | free
  | fixed
  | track
  | other (code : Int)
  deriving Repr, BEq, Inhabited

namespace JointType

/-- The numeric code of a joint kind. -/
def code : JointType → Int
  | .revolute => 0
  | .prismatic => 1
  | .free => 2
  | .fixed => 3
  | .track => 4
  | .other c => c

/-- The joint kind of a numeric code. -/
def ofCode (c : Int) : JointType :=
  match c with
  | 0 => .revolute
  | 1 => .prismatic
  | 2 => .free
  | 3 => .fixed
  | 4 => .track
  | c => .other c

/-- The name of a joint kind; codes without a kind are `unknown`. -/
def name : JointType → String
  | .revolute => "revolute"
  | .prismatic => "prismatic"
  | .free => "free"
  | .fixed => "fixed"
  | .track => "pseudo_continuous_track"
  | .other _ => "unknown"

/-- The joint kind of a name. -/
def ofName? (s : String) : Option JointType :=
  match s with
  | "revolute" => some .revolute
  | "prismatic" => some .prismatic
  | "free" => some .free
  | "fixed" => some .fixed
  | "pseudo_continuous_track" => some .track
  | _ => none

/-- A joint holds its link rigidly when its code is that of `fixed` or above
(fixed, track, and larger codes). -/
def isFixed (t : JointType) : Bool := t.code ≥ 3

/-- Revolute and prismatic joints carry a degree of freedom. -/
def isActuated (t : JointType) : Bool :=
  match t with
  | .revolute | .prismatic => true
  | _ => false

end JointType

/-- Position, velocity, acceleration and effort of one joint, with targets. -/
structure JointState where
  q : Float := 0.0
  dq : Float := 0.0
  ddq : Float := 0.0
  u : Float := 0.0
  qTarget : Float := 0.0
  dqTarget : Float := 0.0
  deriving Inhabited

/-- Bounds of a joint; only the effort bounds act. -/
structure JointLimits where
  qLower : Float := 0.0
  qUpper : Float := 0.0
  dqLower : Float := 0.0
  dqUpper : Float := 0.0
  uLower : Float := 0.0
  uUpper : Float := 0.0
  deriving Inhabited

/-- The value `a` clamped to `[lo, hi]`: `lo` below, `hi` above, and `a` itself
otherwise, a NaN included. -/
def clampTo (a lo hi : Float) : Float :=
  if a < lo then lo else if a > hi then hi else a

/-- The effort a joint applies: unchanged when both effort bounds are zero,
clamped to them otherwise. -/
def JointLimits.clampEffort (l : JointLimits) (u : Float) : Float :=
  if l.uLower == 0.0 && l.uUpper == 0.0 then u else clampTo u l.uLower l.uUpper

/-- A collision sphere in link coordinates. -/
structure Geometry where
  name : String
  radius : Float
  center : Vec3
  deriving Inhabited

/-- A collision sphere with an identity: links share a shape when they hold
the same `id`. -/
structure Shape where
  id : Nat
  geom : Geometry
  deriving Inhabited

/-- Friction and restitution coefficients by material pair name. -/
structure MaterialTable where
  friction : List (String × Float)
  restitution : List (String × Float)
  deriving Inhabited

/-- A material table with an identity. -/
structure Materials where
  id : Nat
  table : MaterialTable
  deriving Inhabited

/-- Index of a link in an assembly. -/
structure LinkId where
  idx : Nat
  deriving BEq, DecidableEq, Hashable, Repr, Inhabited

/-- Index of a body in an assembly. -/
structure BodyId where
  idx : Nat
  deriving BEq, DecidableEq, Hashable, Repr, Inhabited

/-- One rigid piece of a body. -/
structure Link where
  /-- depth-first position in its body, `-1` before it joins a tree -/
  index : Int := -1
  name : String
  parent : Option LinkId := none
  children : Array LinkId := #[]
  body : Option BodyId := none
  jointType : JointType := .fixed
  /-- position among the body's actuated joints, `-1` for other joints -/
  jointId : Int := -1
  axis : Vec3 := Vec3.unitZ
  /-- place of the joint frame in the parent's frame -/
  offset : Mat4 := Mat4.ident
  /-- world transform, computed by forward kinematics -/
  pose : Mat4 := Mat4.ident
  v : Vec3 := Vec3.zero
  w : Vec3 := Vec3.zero
  joint : JointState := {}
  limits : JointLimits := {}
  qInitial : Float := 0.0
  mass : Float := 0.0
  com : Vec3 := Vec3.zero
  inertia : Mat3 := Mat3.ident
  extForce : Vec3 := Vec3.zero
  extTorque : Vec3 := Vec3.zero
  shape : Option Shape := none
  material : String := ""
  /-- free-form annotations, keys unique -/
  info : List (String × Json) := []
  deriving Inhabited

namespace Link

/-- World position of the link frame. -/
def position (l : Link) : Vec3 := l.pose.translationPart

/-- World orientation of the link frame. -/
def rotation (l : Link) : Mat3 := l.pose.rotationPart

/-- World position of the centre of mass. -/
def worldCom (l : Link) : Vec3 := l.pose.transformPoint l.com

/-- World position of a point given in link coordinates. -/
def worldPoint (l : Link) (p : Vec3) : Vec3 := l.pose.transformPoint p

/-- Adds the force `f` acting at the world point `p`, with its torque about
the link origin. -/
def addExternalForce (l : Link) (p f : Vec3) : Link :=
  { l with extForce := l.extForce + f, extTorque := l.extTorque + (p - l.position).cross f }

/-- Drops the accumulated external force and torque. -/
def clearExternalForces (l : Link) : Link :=
  { l with extForce := Vec3.zero, extTorque := Vec3.zero }

/-- The transform of the joint at its current position: a rotation about the
normalised axis, a translation along the axis as given, or the identity. -/
def jointTransform (l : Link) : Mat4 :=
  match l.jointType with
  | .revolute => Mat4.rotation l.joint.q l.axis.normalize
  | .prismatic =>
    let d := l.axis.scale l.joint.q
    Mat4.translation d.x d.y d.z
  | _ => Mat4.ident

/-- An annotation as a double, when it holds one. -/
def infoFloat (l : Link) (key : String) (default : Float) : Float :=
  match l.info.find? (·.1 == key) with
  | some (_, .num x) => x
  | _ => default

/-- Sets an annotation, replacing an earlier value of the key. -/
def setInfo (l : Link) (key : String) (value : Json) : Link :=
  if l.info.any (·.1 == key) then
    { l with info := l.info.map fun (k, v) => if k == key then (k, value) else (k, v) }
  else { l with info := l.info ++ [(key, value)] }

end Link

end Multibody
