import Multibody.Body.Link
import Multibody.Fault

/-!
# Bodies and the assembly that holds them

Links refer to one another: a link knows its parent and its children, and a
body knows its root link and lists its links in depth-first order.  These
references are indices into one `Assembly`, which owns every link and body of
a scene.  A body's root may have a parent in another body: the body is then
*mounted*, and its forward kinematics starts from that foreign link.

A link's identity is its `LinkId`; two bodies never share a link.  Shapes and
material tables carry identities of their own, drawn from the assembly's
counter, so that copies can be told apart from shared values.
-/

namespace Multibody

/-- An actuator or sensor attached to a link, with its current values. -/
structure Device where
  name : String
  kind : String
  linkIndex : Int
  on : Bool
  values : Array Float
  deriving Inhabited

/-- An articulated body: a tree of links below `root`. -/
structure Body where
  name : String
  modelName : String
  root : Option LinkId
  /-- links in depth-first order; a link's `index` is its place here -/
  links : Array LinkId := #[]
  /-- the links with revolute or prismatic joints, in the same order -/
  joints : Array LinkId := #[]
  devices : Array Device := #[]
  materials : Option Materials := none
  staticModel : Bool := false
  deriving Inhabited

/-- Every link and body of a scene. -/
structure Assembly where
  links : Array Link := #[]
  bodies : Array Body := #[]
  /-- the next identity for a shape or material table -/
  nextIdentity : Nat := 0
  deriving Inhabited

namespace Assembly

/-- The link with an id. -/
def link (a : Assembly) (l : LinkId) : Link := a.links.getD l.idx default

/-- The body with an id. -/
def body (a : Assembly) (b : BodyId) : Body := a.bodies.getD b.idx default

/-- Replaces a link. -/
def setLink (a : Assembly) (l : LinkId) (v : Link) : Assembly :=
  { a with links := a.links.set! l.idx v }

/-- Changes a link. -/
def modifyLink (a : Assembly) (l : LinkId) (f : Link → Link) : Assembly :=
  { a with links := a.links.modify l.idx f }

/-- Changes a body. -/
def modifyBody (a : Assembly) (b : BodyId) (f : Body → Body) : Assembly :=
  { a with bodies := a.bodies.modify b.idx f }

/-- Adds a link that belongs to no tree yet. -/
def addLink (a : Assembly) (l : Link) : Assembly × LinkId :=
  ({ a with links := a.links.push l }, ⟨a.links.size⟩)

/-- A fresh identity for a shape or material table. -/
def freshIdentity (a : Assembly) : Assembly × Nat :=
  ({ a with nextIdentity := a.nextIdentity + 1 }, a.nextIdentity)

/-- A new shape with a fresh identity. -/
def newShape (a : Assembly) (g : Geometry) : Assembly × Shape :=
  let (a, id) := a.freshIdentity
  (a, ⟨id, g⟩)

/-- A new material table with a fresh identity. -/
def newMaterials (a : Assembly) (t : MaterialTable) : Assembly × Materials :=
  let (a, id) := a.freshIdentity
  (a, ⟨id, t⟩)

/-- Makes `child` the last child of `parent`. -/
def appendChild (a : Assembly) (parent child : LinkId) : Assembly :=
  let a := a.modifyLink child fun c => { c with parent := some parent }
  a.modifyLink parent fun p => { p with children := p.children.push child }

/-- Re-indexes a body from its root: depth-first, each link takes its place
in the order as `index` and the body as owner; revolute and prismatic joints
are numbered in the same order, other joints get `-1`. -/
def updateLinkTree (a : Assembly) (b : BodyId) : Assembly :=
  match (a.body b).root with
  | none => a.modifyBody b fun bd => { bd with links := #[], joints := #[] }
  | some r =>
    let rec visit : Nat → List LinkId → Assembly → Array LinkId → Array LinkId →
        Assembly × Array LinkId × Array LinkId
      | 0, _, a, ls, js => (a, ls, js)
      | _, [], a, ls, js => (a, ls, js)
      | fuel + 1, l :: rest, a, ls, js =>
        let lk := a.link l
        let actuated := lk.jointType.isActuated
        let a := a.setLink l { lk with
          index := ls.size, body := some b,
          jointId := if actuated then (js.size : Int) else -1 }
        visit fuel (lk.children.toList ++ rest) a (ls.push l) (if actuated then js.push l else js)
    let (a, ls, js) := visit (a.links.size + 1) [r] a #[] #[]
    a.modifyBody b fun bd => { bd with links := ls, joints := js }

/-- Adds a body named `name` (its model name too) with the given root, and
indexes its tree. -/
def addBody (a : Assembly) (name : String) (root : Option LinkId) : Assembly × BodyId :=
  let id : BodyId := ⟨a.bodies.size⟩
  let a := { a with bodies := a.bodies.push { name := name, modelName := name, root := root } }
  (a.updateLinkTree id, id)

/-- Whether the link has a parent in another body (or in no body while
it belongs to one). -/
def hasParentBody (a : Assembly) (l : Link) : Bool :=
  match l.parent with
  | some p => (a.link p).body != l.body
  | none => false

/-- Whether a link has no parent or a parent in another body. -/
def isBodyRoot (a : Assembly) (l : Link) : Bool :=
  match l.parent with
  | some p => (a.link p).body != l.body
  | none => true

/-- Whether every joint from the link up to the top of its chain of
parents, across bodies, is fixed. -/
def isStatic (a : Assembly) (l : LinkId) : Bool :=
  let rec up : Nat → LinkId → Bool
    | 0, _ => true
    | fuel + 1, l =>
      let lk := a.link l
      if !lk.jointType.isFixed then false
      else match lk.parent with
        | some p => up fuel p
        | none => true
  up (a.links.size + 1) l

/-- The link at a body index, if the index is in range. -/
def linkAt? (a : Assembly) (b : BodyId) (i : Int) : Option LinkId :=
  if i < 0 then none else (a.body b).links[i.toNat]?

/-- The link with an actuated-joint number, if in range. -/
def jointAt? (a : Assembly) (b : BodyId) (i : Int) : Option LinkId :=
  if i < 0 then none else (a.body b).joints[i.toNat]?

/-- The first link of a body with a name. -/
def linkByName? (a : Assembly) (b : BodyId) (name : String) : Option LinkId :=
  (a.body b).links.find? fun l => (a.link l).name == name

/-- The root link, or the fault of reading through an absent root. -/
def rootOf (a : Assembly) (b : BodyId) : Except Fault LinkId :=
  match (a.body b).root with
  | some r => .ok r
  | none => .error .missing

/-- A body is static when marked so, or when its root joint is fixed and it
has no actuated joint. -/
def isStaticModel (a : Assembly) (b : BodyId) : Bool :=
  let bd := a.body b
  bd.staticModel ||
    (match bd.root with
     | some r => (a.link r).jointType.isFixed && bd.joints.isEmpty
     | none => false)

/-- The foreign link a body is mounted on, if any. -/
def parentBodyLink? (a : Assembly) (b : BodyId) : Option LinkId :=
  match (a.body b).root with
  | some r =>
    let rl := a.link r
    if a.hasParentBody rl then rl.parent else none
  | none => none

/-- Mounts a body on a link of another body at `offset`; the message says why
a mount is refused. -/
def mount (a : Assembly) (b : BodyId) (parent : Option LinkId) (offset : Mat4) :
    Except Fault (Assembly × Option String) := do
  let name := (a.body b).name
  match parent with
  | none => return (a, some ("mount " ++ name ++ ": nil parent link"))
  | some p =>
    if (a.link p).body == some b then
      return (a, some ("mount " ++ name ++ ": parent link belongs to the same body"))
    let r ← a.rootOf b
    return (a.modifyLink r fun l => { l with parent := some p, offset := offset }, none)

/-- Detaches a mounted body from its foreign parent. -/
def unmount (a : Assembly) (b : BodyId) : Except Fault Assembly := do
  let r ← a.rootOf b
  if a.hasParentBody (a.link r) then return a.modifyLink r fun l => { l with parent := none }
  else return a

/-- Sets the world transform of the root link. -/
def setRootPose (a : Assembly) (b : BodyId) (t : Mat4) : Except Fault Assembly := do
  let r ← a.rootOf b
  return a.modifyLink r fun l => { l with pose := t }

/-- Clears the external forces of every link of a body. -/
def clearExternalForces (a : Assembly) (b : BodyId) : Assembly :=
  (a.body b).links.foldl (fun a l => a.modifyLink l Link.clearExternalForces) a

/-- Puts every actuated joint at its initial position at rest, stops the
root and clears the external forces. -/
def initializeState (a : Assembly) (b : BodyId) : Except Fault Assembly := do
  let bd := a.body b
  let a := bd.joints.foldl (fun a j => a.modifyLink j fun l =>
    { l with joint := { q := l.qInitial, qTarget := l.qInitial } }) a
  let r ← a.rootOf b
  let a := a.modifyLink r fun l => { l with v := Vec3.zero, w := Vec3.zero }
  return a.clearExternalForces b

/-- Forward kinematics: each link's world transform is its parent's times its
offset times its joint transform, in depth-first order.  An unmounted root
keeps its transform. -/
def forwardKinematics (a : Assembly) (b : BodyId) : Assembly :=
  let bd := a.body b
  bd.links.foldl (fun a l =>
    let lk := a.link l
    if bd.root == some l && !a.hasParentBody lk then a
    else match lk.parent with
      | some p =>
        let pt := (a.link p).pose
        a.setLink l { lk with pose := (pt.mul lk.offset).mul lk.jointTransform }
      | none => a) a

/-- Sum of the link masses. -/
def totalMass (a : Assembly) (b : BodyId) : Float :=
  (a.body b).links.foldl (fun m l => m + (a.link l).mass) 0.0

/-- The mass-weighted mean of the link centres of mass; a massless body gives
its root position. -/
def centerOfMass (a : Assembly) (b : BodyId) : Except Fault Vec3 := do
  let (c, total) := (a.body b).links.foldl (fun (c, t) l =>
    let lk := a.link l
    (c + lk.worldCom.scale lk.mass, t + lk.mass)) (Vec3.zero, 0.0)
  if total == 0.0 then
    let r ← a.rootOf b
    return (a.link r).position
  else return c.scale (1.0 / total)

/-- Adds a device to a body. -/
def addDevice (a : Assembly) (b : BodyId) (d : Device) : Assembly :=
  a.modifyBody b fun bd => { bd with devices := bd.devices.push d }

end Assembly

end Multibody
