import Multibody.Body.Assembly

/-!
# Snapshots

A snapshot is the state of one body at one frame, as a value: the joint
positions, rates and efforts, the root pose, optionally the pose of every
link, and the devices that changed or all of them.  Applying a snapshot
restores the joints and, for an unmounted body, the root pose, then runs the
forward kinematics.
-/

namespace Multibody

/-- A position and an orientation. -/
structure Pose where
  position : Vec3 := Vec3.zero
  rotation : Quat := Quat.ident
  deriving Inhabited

namespace Pose

/-- The pose of a rigid transform. -/
def ofMat4 (t : Mat4) : Pose := ⟨t.translationPart, Quat.ofMat4 t⟩

/-- The transform of a pose: the translation times the rotation. -/
def toMat4 (p : Pose) : Mat4 :=
  (Mat4.translation p.position.x p.position.y p.position.z).mul p.rotation.toMat4

end Pose

/-- A device's state in a snapshot. -/
structure DeviceState where
  index : Int
  on : Bool
  values : Array Float
  deriving Inhabited

/-- The state of a body at one frame. -/
structure Snapshot where
  frame : Int := 0
  time : Float := 0.0
  root : Pose := {}
  q : Array Float := #[]
  dq : Array Float := #[]
  u : Array Float := #[]
  links : Array Pose := #[]
  devices : Array DeviceState := #[]
  deriving Inhabited

/-- What a snapshot records beyond the joints and root. -/
structure SnapshotOptions where
  allLinkPositions : Bool := false
  allDevices : Bool := false
  /-- device indices to record when `allDevices` is off; others are skipped -/
  changedDevices : Array Int := #[]

/-- Restores the `i`-th joint of a body from a snapshot: its position, and
its rate and effort where the snapshot has them. -/
def Snapshot.restoreJoint (s : Snapshot) (i : Nat) (l : Link) : Link :=
  { l with joint := { l.joint with q := s.q[i]!, dq := s.dq.getD i l.joint.dq, u := s.u.getD i l.joint.u } }

namespace Assembly

/-- The current state of a body, keeping `base`'s frame and time. -/
def takeSnapshot (a : Assembly) (b : BodyId) (base : Snapshot) (opts : SnapshotOptions) :
    Except Fault Snapshot := do
  let bd := a.body b
  let js := bd.joints.map a.link
  let r ← a.rootOf b
  let links := if opts.allLinkPositions then bd.links.map fun l => Pose.ofMat4 (a.link l).pose else #[]
  let devState (i : Nat) (d : Device) : DeviceState := ⟨i, d.on, d.values⟩
  let devices :=
    if opts.allDevices then bd.devices.mapIdx fun i d => devState i d
    else opts.changedDevices.filterMap fun i =>
      if i ≥ 0 then (bd.devices[i.toNat]?).map (devState i.toNat) else none
  return { base with
    q := js.map (·.joint.q), dq := js.map (·.joint.dq), u := js.map (·.joint.u),
    root := Pose.ofMat4 (a.link r).pose, links := links, devices := devices }

/-- Restores joint positions (and rates and efforts where given) and the
root pose of an unmounted body, then runs the forward kinematics.  Joints
beyond the snapshot's positions are left alone. -/
def applySnapshot (a : Assembly) (b : BodyId) (s : Snapshot) : Except Fault Assembly := do
  let bd := a.body b
  let a := (List.range (min bd.joints.size s.q.size)).foldl
    (fun a i => a.modifyLink bd.joints[i]! (s.restoreJoint i)) a
  let r ← a.rootOf b
  let a := if !a.hasParentBody (a.link r) then a.modifyLink r fun l => { l with pose := s.root.toMat4 } else a
  return a.forwardKinematics b

end Assembly

end Multibody
