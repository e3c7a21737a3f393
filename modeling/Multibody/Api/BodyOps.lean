import Multibody.Api.World
import Multibody.Api.Dump
import Multibody.Api.Slot
import Multibody.Body.Clone
import Multibody.Collision.Sphere
import Multibody.Metrics.Basic

/-!
# Working on bodies

A `body` request builds a scene and then runs a list of operations on it in
order: queries and edits of links and bodies, snapshots kept in named
slots, clones through one shared clone map, collision queries and metrics.
A fault inside one operation is that operation's answer and leaves the
bench as it was; a request that cannot be read ends the whole answer.
-/

namespace Multibody.Api

/-- What the operations of one request share. -/
structure Bench where
  scene : Scene
  clones : CloneMap := {}
  slots : List (String × Slot) := []
  metrics : List (String × Metric) := []

/-- The outcome of one operation: a fault, or the new bench and the answer. -/
abbrev Outcome := Except Fault (Bench × Json)

namespace Bench

/-- The assembly of the bench. -/
def assembly (w : Bench) : Assembly := w.scene.assembly

/-- The bench with another assembly. -/
def withAssembly (w : Bench) (a : Assembly) : Bench :=
  { w with scene := { w.scene with assembly := a } }

/-- The body named by the member `body`. -/
def bodyOf (w : Bench) (op : Json) : Reply BodyId := do
  w.scene.resolve (← str op "body" "")

/-- A slot's snapshot holder, if saved. -/
def slot? (w : Bench) (name : String) : Option Slot :=
  (w.slots.find? (·.1 == name)).map (·.2)

/-- Stores a slot, replacing one of the same name. -/
def putSlot (w : Bench) (name : String) (s : Slot) : Bench :=
  { w with slots := (name, s) :: w.slots.filter (·.1 != name) }

/-- A metric by id. -/
def metric? (w : Bench) (id : String) : Option Metric :=
  (w.metrics.find? (·.1 == id)).map (·.2)

/-- Stores a metric, replacing one of the same id. -/
def putMetric (w : Bench) (id : String) (m : Metric) : Bench :=
  { w with metrics := (id, m) :: w.metrics.filter (·.1 != id) }

end Bench

/-- The link at the member `link` of a body, or the fault of using an absent link. -/
def linkArg (a : Assembly) (b : BodyId) (op : Json) : Reply (Except Fault LinkId) := do
  let i ← int op "link" 0
  return match a.linkAt? b i with
    | some l => .ok l
    | none => .error .missing

/-- Answers `null` with a changed assembly. -/
def edited (w : Bench) (a : Except Fault Assembly) : Outcome := do
  return (w.withAssembly (← a), .null)

/-- Sets the members given of a joint's state. -/
def setJointState (op : Json) (s : JointState) : Reply JointState := do
  return { s with q := ← float op "q" s.q, dq := ← float op "dq" s.dq,
                  ddq := ← float op "ddq" s.ddq, u := ← float op "u" s.u }

/-- Sets the members given of a link. -/
def setLinkFields (op : Json) (l : Link) : Reply Link := do
  let jt ← if op.has "joint" then jointOf op else pure l.jointType
  return { l with
    joint := { l.joint with q := ← float op "q" l.joint.q, dq := ← float op "dq" l.joint.dq,
                            u := ← float op "u" l.joint.u },
    jointType := jt, axis := ← vec3 op "axis" l.axis,
    offset := ← (match op.get? "offset" with
      | some v => transformOf v
      | none => pure l.offset),
    mass := ← float op "mass" l.mass, com := ← vec3 op "com" l.com,
    v := ← vec3 op "v" l.v, w := ← vec3 op "w" l.w }

/-- A touching pair: both links as `[body, index]`, whether they share a
body, and the contacts. -/
def linkPairJson (a : Assembly) (p : LinkPair) : Json :=
  .obj [("a", linkRefJson a p.linkA), ("b", linkRefJson a p.linkB),
    ("self", .bool ((a.link p.linkA).body == (a.link p.linkB).body)),
    ("contacts", .arr (p.contacts.toList.map fun c =>
      .obj [("point", vec3Json c.point), ("normal", vec3Json c.normal), ("depth", .num c.depth)]))]

/-- Runs the sphere detector over the named bodies. -/
def detectAnswer (w : Bench) (op : Json) : Reply Json := do
  let a := w.assembly
  let names ← (list op "bodies").mapM fun n => match n with
    | .str s => pure s
    | _ => throw (badInput "field bodies: not a string")
  let selfs := list op "self"
  let mut registered : SphereDetector := {}
  for (n, i) in names.zipIdx do
    let b ← w.scene.resolve n
    let self := match selfs[i]? with
      | some (.bool s) => s
      | _ => false
    registered := registered.addBody a b self
  let (d, ready) ←
    if ← bool op "skip_ready" false then pure (registered, false) else pure registered.makeReady
  let (d, pairs) := d.detect a
  let base := [("name", .str SphereDetector.name), ("ready", .bool ready),
    ("pairs", .arr (pairs.toList.map (linkPairJson a)))]
  if ← bool op "clear" false then
    let (_, after) := d.clear.detect a
    return .obj (base ++ [("after_clear", .arr (after.toList.map (linkPairJson a)))])
  else return .obj base

/-- Takes a snapshot, over a slot's storage when `reuse` names one, and saves
a copy when `save` names a slot. -/
def snapshotAnswer (w : Bench) (b : BodyId) (op : Json) : Reply Outcome := do
  let opts : SnapshotOptions := {
    allLinkPositions := ← bool op "all_links" false,
    allDevices := ← bool op "all_devices" false,
    changedDevices := ← ints op "changed" }
  let reuse ← str? op "reuse"
  let save ← str? op "save"
  let slot := reuse.bind w.slot?
  let base := (slot.map (·.snapshot)).getD {}
  return do
    let s ← w.assembly.takeSnapshot b base opts
    let w := match reuse, slot with
      | some n, some sl => w.putSlot n (sl.takenOver s)
      | _, _ => w
    let w := match save with
      | some n => w.putSlot n (Slot.ofSnapshot s)
      | none => w
    return (w, snapshotJson s)

/-- Clones a body through the shared clone map and names the copy. -/
def cloneAnswer (w : Bench) (b : BodyId) (op : Json) : Reply Outcome := do
  let nickname ← str op "as" ""
  let cm := if ← bool op "fresh" false then w.clones.clear else w.clones
  return do
    let (a, cm, c) ← w.assembly.cloneBody cm b
    let (a, cm) := a.finalizeClones cm
    let w := { w.withAssembly a with
      clones := cm, scene := { w.scene with assembly := a, names := (nickname, c) :: w.scene.names } }
    return (w, .int cm.size)

/-- Identity of two bodies, of their links at one index, of those links'
shapes and of the bodies' material tables. -/
def sameAnswer (w : Bench) (b : BodyId) (op : Json) : Reply Outcome := do
  let other ← w.scene.resolve (← str op "other" "")
  let i ← int op "link" 0
  let a := w.assembly
  let la := a.linkAt? b i
  let lb := a.linkAt? other i
  return do
    let shapeOf (l : Option LinkId) : Except Fault (Option Nat) := match l with
      | some l => .ok ((a.link l).shape.map (·.id))
      | none => .error .missing
    let sa ← shapeOf la
    let sb ← shapeOf lb
    let ma := (a.body b).materials.map (·.id)
    let mb := (a.body other).materials.map (·.id)
    return (w, .obj [("body", .bool (b == other)), ("link", .bool (la == lb)),
      ("shape", .bool (sa == sb)), ("materials", .bool (ma == mb))])

/-- Runs one operation on a body. -/
def bodyStep (w : Bench) (b : BodyId) (kind : String) (op : Json) : Reply Outcome := do
  let a := w.assembly
  match kind with
  | "dump" => return (do return (w, ← bodyJson a b))
  | "link" => return .ok (w, Json.opt (linkJson a) (a.linkAt? b (← int op "link" 0)))
  | "link_by_name" =>
    return .ok (w, Json.opt (fun l => .int (a.link l).index) (a.linkByName? b (← str op "name" "")))
  | "joint" => return .ok (w, Json.opt (fun l => .int (a.link l).index) (a.jointAt? b (← int op "id" 0)))
  | "set_joint" =>
    match a.jointAt? b (← int op "id" 0) with
    | none => return .ok (w, .obj [("error", .str "no_joint")])
    | some j =>
      let s ← setJointState op (a.link j).joint
      return .ok (w.withAssembly (a.modifyLink j fun l => { l with joint := s }), .null)
  | "set_link" =>
    let l ← linkArg a b op
    match l with
    | .error f => return .error f
    | .ok l =>
      let v ← setLinkFields op (a.link l)
      return .ok (w.withAssembly (a.setLink l v), .null)
  | "fk" => return edited w (.ok (a.forwardKinematics b))
  | "clear_forces" => return edited w (.ok (a.clearExternalForces b))
  | "initialize_state" => return edited w (a.initializeState b)
  | "unmount" => return edited w (a.unmount b)
  | "set_root_pose" =>
    let t ← transform op "tf"
    return edited w (a.setRootPose b t)
  | "add_force" =>
    let l ← linkArg a b op
    let p ← vec3 op "point" Vec3.zero
    let f ← vec3 op "force" Vec3.zero
    return do
      let l ← l
      let a := a.modifyLink l fun lk => lk.addExternalForce p f
      let lk := a.link l
      return (w.withAssembly a,
        .obj [("ext_force", vec3Json lk.extForce), ("ext_torque", vec3Json lk.extTorque)])
  | "append_child" =>
    let (a, child) ← addLinkSpec a (object op "child") 10000
    let parent ← linkArg a b op
    return do
      let p ← parent
      let a := (a.appendChild p child).updateLinkTree b
      return (w.withAssembly a, .int (a.body b).links.size)
  | "mount" =>
    let parent ← w.scene.resolve (← str op "parent" "")
    let i ← int op "link" 0
    let offset ← transform op "offset"
    return do
      let (a, err) ← a.mount b (a.linkAt? parent i) offset
      return (w.withAssembly a, Json.optStr err)
  | "summary" => return (do return (w, ← summaryJson a b))
  | "positions" =>
    return .ok (w, .arr ((a.body b).links.toList.map fun l => vec3Json (a.link l).position))
  | "world_point" =>
    let l ← linkArg a b op
    let p ← vec3 op "point" Vec3.zero
    return do return (w, vec3Json ((a.link (← l)).worldPoint p))
  | "joint_transform" =>
    let l ← linkArg a b op
    return do return (w, mat4Json (a.link (← l)).jointTransform)
  | "pose" =>
    let l ← linkArg a b op
    return do
      let p := Pose.ofMat4 (a.link (← l)).pose
      return (w, .obj [("pose", poseJson p), ("mat4", mat4Json p.toMat4)])
  | "clamp_effort" =>
    let l ← linkArg a b op
    let u ← float op "u" 0.0
    return do return (w, .num ((a.link (← l)).limits.clampEffort u))
  | "snapshot" => snapshotAnswer w b op
  | "apply_snapshot" =>
    let s ← match ← str? op "slot" with
      | some n => pure (((w.slot? n).map (·.snapshot)).getD {})
      | none => snapshotOf (object op "snapshot")
    return edited w (a.applySnapshot b s)
  | "clone" => cloneAnswer w b op
  | "same" => sameAnswer w b op
  | "energy" =>
    let g ← vec3 op "g" ⟨0.0, 0.0, -standardGravity⟩
    return do
      let (a, e) ← a.mechanicalEnergy b g
      return (w.withAssembly a, .num e)
  | "set_thrust" =>
    let t ← float op "thrust" 0.0
    return edited w (.ok (a.setThrust b t))
  | "rotor_thrust" =>
    let a := a.applyRotorThrust b
    return .ok (w.withAssembly a, .arr ((a.body b).links.toList.map fun l =>
      let lk := a.link l
      .obj [("f", vec3Json lk.extForce), ("t", vec3Json lk.extTorque)]))
  | "set_device" =>
    let i ← int op "index" 0
    let devices := (a.body b).devices
    if h : 0 ≤ i ∧ i.toNat < devices.size then
      let d := devices[i.toNat]
      let d := { d with on := ← bool op "on" d.on, values := ← floats op "values" d.values,
                        kind := ← str op "kind" d.kind, linkIndex := ← int op "link" d.linkIndex }
      let a := a.modifyBody b fun bd => { bd with devices := bd.devices.set! i.toNat d }
      return .ok (w.withAssembly a, .null)
    else return .error (.indexOutOfRange i devices.size)
  | "observe" =>
    let id ← str op "id" ""
    return do
      let m ← match w.metric? id with
        | some m => Except.ok m
        | none => .error .missing
      let (a, m) ← m.observe a b
      return ((w.withAssembly a).putMetric id m, .num m.value)
  | _ => throw (badInput ("unknown body op \"" ++ kind ++ "\""))

/-- Runs one operation: those that name no body first, then body operations. -/
def benchStep (w : Bench) (op : Json) : Reply Outcome := do
  let kind ← str op "do" ""
  match kind with
  | "detect" => return .ok (w, ← detectAnswer w op)
  | "metric" =>
    let k ← str op "kind" ""
    let g ← vec3 op "g" ⟨0.0, 0.0, -standardGravity⟩
    let th ← float op "threshold" Metric.defaultThreshold
    match Metric.ofKind? k g th with
    | some m =>
      let id ← str op "id" ""
      return .ok (w.putMetric id m, .obj [("name", .str m.name), ("value", .num m.value)])
    | none => throw (badInput ("unknown metric \"" ++ k ++ "\""))
  | "metric_value" =>
    return match w.metric? (← str op "id" "") with
      | some m => .ok (w, .num m.value)
      | none => .error .missing
  | "metric_reset" =>
    let id ← str op "id" ""
    return match w.metric? id with
      | some m => .ok (w.putMetric id m.reset, .num m.reset.value)
      | none => .error .missing
  | _ => bodyStep w (← w.bodyOf op) kind op

/-- The `body` request: build the scene, run every operation in order. -/
def bodyAnswer (req : Json) : Reply Json := do
  let scene ← buildScene {} (list req "bodies")
  let mut w : Bench := { scene := scene }
  let mut results : Array Json := #[]
  for op in list req "ops" do
    match ← benchStep w op with
    | .ok (w', r) =>
      w := w'
      results := results.push r
    | .error f => results := results.push (faultAnswer f)
  return .obj [("results", .arr results.toList)]

/-- The `model` request: the bodies of a model, after the kinematics when
`fk` is set. -/
def modelAnswer (req : Json) : Reply Json := do
  let name ← str req "name" ""
  let p ← modelParamsOf (object req "params")
  let fk ← bool req "fk" false
  match Assembly.buildModel {} name p with
  | none => throw (failure "model" (Assembly.unknownModelMessage name))
  | some (a, bs) =>
    let a := if fk then bs.foldl Assembly.forwardKinematics a else a
    let dumps ← bs.mapM fun b => ofFault (bodyJson a b)
    return .obj [("bodies", .arr dumps)]

end Multibody.Api
