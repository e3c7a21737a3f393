import Multibody.Api.Fields
import Multibody.Body.Snapshot

/-!
# Bodies, links and snapshots as JSON

The views of the body model that answers show: every field of a link, a
body's summary and tree, poses and snapshots.  Object members whose keys
come from data (annotations, material tables) are listed in key order.
-/

namespace Multibody.Api

/-- Members in key order; equal keys keep their order. -/
def sortByKey {α : Type} (fs : List (String × α)) : List (String × α) :=
  fs.mergeSort fun x y => !(y.1 < x.1)

mutual
/-- A value with the members of every object in key order. -/
def Json.sorted : Json → Json
  | .arr xs => .arr (sortedItems xs)
  | .obj fs => .obj (sortByKey (sortedFields fs))
  | j => j

/-- Items with their objects' members in key order. -/
def sortedItems : List Json → List Json
  | [] => []
  | x :: xs => Json.sorted x :: sortedItems xs

/-- Members whose values have their objects' members in key order. -/
def sortedFields : List (String × Json) → List (String × Json)
  | [] => []
  | (k, v) :: fs => (k, Json.sorted v) :: sortedFields fs
end

/-- A pose as position and `[w, x, y, z]` rotation. -/
def poseJson (p : Pose) : Json :=
  .obj [("pos", vec3Json p.position), ("rot", Json.ofFloats p.rotation.toList)]

/-- A pose from JSON; the rotation defaults to the identity. -/
def poseOf (j : Json) : Reply Pose := do
  let pos ← vec3 j "pos" Vec3.zero
  let rot ← match ← floats? j "rot" with
    | some xs => pure (Quat.ofList xs.toList)
    | none => pure Quat.ident
  return ⟨pos, rot⟩

/-- A recorded device state. -/
def deviceStateJson (d : DeviceState) : Json :=
  .obj [("index", .int d.index), ("on", .bool d.on), ("values", floatsJson d.values)]

/-- A snapshot with all its fields. -/
def snapshotJson (s : Snapshot) : Json :=
  .obj [("frame", .int s.frame), ("time", .num s.time), ("root", poseJson s.root),
    ("q", floatsJson s.q), ("dq", floatsJson s.dq), ("u", floatsJson s.u),
    ("links", .arr (s.links.toList.map poseJson)),
    ("devices", .arr (s.devices.toList.map deviceStateJson))]

/-- A snapshot from JSON; every member is optional. -/
def snapshotOf (j : Json) : Reply Snapshot := do
  let links ← (list j "links").mapM poseOf
  let devices ← (list j "devices").mapM fun d => do
    return ({ index := ← int d "index" 0, on := ← bool d "on" false,
              values := ← floats d "values" #[] } : DeviceState)
  return { frame := ← int j "frame" 0, time := ← float j "time" 0.0,
           root := ← poseOf (object j "root"),
           q := ← floats j "q" #[], dq := ← floats j "dq" #[], u := ← floats j "u" #[],
           links := links.toArray, devices := devices.toArray }

/-- A table of named numbers in key order. -/
def namedFloatsJson (fs : List (String × Float)) : Json :=
  .obj ((sortByKey fs).map fun (k, x) => (k, .num x))

/-- A material table, or `null`. -/
def materialsJson (m : Option Materials) : Json :=
  Json.opt (fun m => .obj [("friction", namedFloatsJson m.table.friction),
    ("restitution", namedFloatsJson m.table.restitution)]) m

/-- A shape, or `null`. -/
def shapeJson (s : Option Shape) : Json :=
  Json.opt (fun s => .obj [("name", .str s.geom.name), ("radius", .num s.geom.radius),
    ("center", vec3Json s.geom.center)]) s

/-- The pair `[body name, link index]` of a link. -/
def linkRefJson (a : Assembly) (l : LinkId) : Json :=
  let lk := a.link l
  .arr [.str (match lk.body with
    | some b => (a.body b).name
    | none => ""), .int lk.index]

/-- Every field of a link, with its relations in the body. -/
def linkJson (a : Assembly) (id : LinkId) : Json :=
  let l := a.link id
  let mounted := a.hasParentBody l
  let parentIndex : Int := match l.parent with
    | some p => if mounted then -1 else (a.link p).index
    | none => -1
  let parentBody : Json := match l.parent with
    | some p => if mounted then linkRefJson a p else .null
    | none => .null
  .obj [("index", .int l.index), ("name", .str l.name), ("parent", .int parentIndex),
    ("parent_body_link", parentBody), ("is_root", .bool l.parent.isNone),
    ("is_body_root", .bool (a.isBodyRoot l)), ("has_parent_body", .bool mounted),
    ("is_static", .bool (a.isStatic id)), ("is_fixed_joint", .bool l.jointType.isFixed),
    ("joint", .str l.jointType.name), ("joint_id", .int l.jointId), ("axis", vec3Json l.axis),
    ("offset", mat4Json l.offset), ("T", mat4Json l.pose), ("V", vec3Json l.v),
    ("W", vec3Json l.w), ("q", .num l.joint.q), ("dq", .num l.joint.dq),
    ("ddq", .num l.joint.ddq), ("u", .num l.joint.u), ("q_target", .num l.joint.qTarget),
    ("dq_target", .num l.joint.dqTarget), ("q_initial", .num l.qInitial),
    ("mass", .num l.mass), ("com", vec3Json l.com), ("inertia", mat3Json l.inertia),
    ("ext_force", vec3Json l.extForce), ("ext_torque", vec3Json l.extTorque),
    ("world_com", vec3Json l.worldCom), ("shape", shapeJson l.shape),
    ("material", .str l.material),
    ("info", .obj (sortByKey (sortedFields l.info)))]

/-- A device with its link index and values. -/
def deviceJson (d : Device) : Json :=
  .obj [("name", .str d.name), ("kind", .str d.kind), ("link", .int d.linkIndex),
    ("on", .bool d.on), ("values", floatsJson d.values)]

/-- The foreign link a body is mounted on, or `null`. -/
def parentBodyJson (a : Assembly) (b : BodyId) : Json :=
  Json.opt (linkRefJson a) (a.parentBodyLink? b)

/-- Mass, centre of mass and shape of a body. -/
def summaryJson (a : Assembly) (b : BodyId) : Except Fault Json := do
  let bd := a.body b
  let com ← a.centerOfMass b
  return .obj [("total_mass", .num (a.totalMass b)), ("com", vec3Json com),
    ("static_model", .bool (a.isStaticModel b)), ("num_links", .int bd.links.size),
    ("num_joints", .int bd.joints.size), ("parent_body_link", parentBodyJson a b)]

/-- A whole body: its summary, its links in index order, devices and
materials. -/
def bodyJson (a : Assembly) (b : BodyId) : Except Fault Json := do
  let bd := a.body b
  let com ← a.centerOfMass b
  return .obj [("name", .str bd.name), ("model_name", .str bd.modelName),
    ("static_model", .bool (a.isStaticModel b)), ("num_links", .int bd.links.size),
    ("num_joints", .int bd.joints.size), ("total_mass", .num (a.totalMass b)),
    ("com", vec3Json com), ("links", .arr (bd.links.toList.map (linkJson a))),
    ("devices", .arr (bd.devices.toList.map deviceJson)),
    ("parent_body_link", parentBodyJson a b), ("materials", materialsJson bd.materials)]

end Multibody.Api
