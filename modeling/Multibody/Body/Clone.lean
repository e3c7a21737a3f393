import Multibody.Body.Assembly

/-!
# Copying bodies

A clone map records, for every body, link, shape and material table copied
so far, the copy that stands for it.  Copying through one map keeps sharing
intact: a shape used by two links is copied once and the two copies share the
copy, and a body copied twice yields the same copy.  A mounted body's copy is
re-attached to the copy of its foreign parent once every body has been
copied (`CloneMap.finalize`), and stays unmounted when that parent was never
copied.
-/

namespace Multibody

/-- What a clone map can hold a copy of. -/
inductive CloneKey where
  | body (b : BodyId)
  | link (l : LinkId)
  | shape (id : Nat)
  | materials (id : Nat)
  deriving BEq, Inhabited

/-- Sources and their copies, and the re-attachments still to do. -/
structure CloneMap where
  entries : Array (CloneKey × Nat) := #[]
  /-- copied bodies whose root waits for the copy of a foreign parent -/
  pending : Array (BodyId × LinkId) := #[]
  deriving Inhabited

namespace CloneMap

/-- Number of sources copied. -/
def size (cm : CloneMap) : Nat := cm.entries.size

/-- The copy of a source, if one was made. -/
def lookup? (cm : CloneMap) (k : CloneKey) : Option Nat :=
  (cm.entries.find? (·.1 == k)).map (·.2)

/-- Records a copy. -/
def record (cm : CloneMap) (k : CloneKey) (copy : Nat) : CloneMap :=
  { cm with entries := cm.entries.push (k, copy) }

/-- Forgets every copy and pending re-attachment. -/
def clear (_cm : CloneMap) : CloneMap := {}

end CloneMap

namespace Assembly

/-- The copy of a shape under a clone map, made on first use. -/
def cloneShape (a : Assembly) (cm : CloneMap) (s : Shape) : Assembly × CloneMap × Shape :=
  match cm.lookup? (.shape s.id) with
  | some id => (a, cm, ⟨id, s.geom⟩)
  | none =>
    let (a, id) := a.freshIdentity
    (a, cm.record (.shape s.id) id, ⟨id, s.geom⟩)

/-- The copy of a material table under a clone map, made on first use. -/
def cloneMaterials (a : Assembly) (cm : CloneMap) (m : Materials) : Assembly × CloneMap × Materials :=
  match cm.lookup? (.materials m.id) with
  | some id => (a, cm, ⟨id, m.table⟩)
  | none =>
    let (a, id) := a.freshIdentity
    (a, cm.record (.materials m.id) id, ⟨id, m.table⟩)

/-- The copy of a link tree: each link is copied once (its copy belongs to no
tree and has no relatives), and the copies of its children are appended to
the copy in order. -/
def cloneTree (a : Assembly) (cm : CloneMap) (root : LinkId) : Assembly × CloneMap × LinkId :=
  let rec go : Nat → Assembly → CloneMap → LinkId → Assembly × CloneMap × LinkId
    | 0, a, cm, l => (a, cm, l)
    | fuel + 1, a, cm, l =>
      let orig := a.link l
      let (a, cm, c) := match cm.lookup? (.link l) with
        | some c => (a, cm, (⟨c⟩ : LinkId))
        | none =>
          let (a, cm, shape) := match orig.shape with
            | some s =>
              let (a, cm, s) := a.cloneShape cm s
              (a, cm, some s)
            | none => (a, cm, none)
          let (a, c) := a.addLink { orig with
            parent := none, children := #[], body := none, shape := shape }
          (a, cm.record (.link l) c.idx, c)
      orig.children.foldl (fun (a, cm, c) child =>
        let (a, cm, cc) := go fuel a cm child
        (a.appendChild c cc, cm, c)) (a, cm, c)
  go (a.links.size + 1) a cm root

/-- The copy of a body under a clone map: name, model name, static flag,
material table (through the map), link tree and devices; a body already
copied gives its earlier copy. -/
def cloneBody (a : Assembly) (cm : CloneMap) (b : BodyId) : Except Fault (Assembly × CloneMap × BodyId) := do
  match cm.lookup? (.body b) with
  | some c => return (a, cm, ⟨c⟩)
  | none =>
    let orig := a.body b
    let (a, cm, mats) := match orig.materials with
      | some m =>
        let (a, cm, m) := a.cloneMaterials cm m
        (a, cm, some m)
      | none => (a, cm, none)
    let r ← a.rootOf b
    let (a, cm, croot) := a.cloneTree cm r
    let id : BodyId := ⟨a.bodies.size⟩
    let a := { a with bodies := a.bodies.push {
      name := orig.name, modelName := orig.modelName, root := some croot,
      devices := orig.devices, materials := mats, staticModel := orig.staticModel } }
    let a := a.updateLinkTree id
    let rootLink := a.link r
    let cm := match rootLink.parent with
      | some p => if a.hasParentBody rootLink then { cm with pending := cm.pending.push (id, p) } else cm
      | none => cm
    return (a, cm.record (.body b) id.idx, id)

/-- Re-attaches each copied mounted body to the copy of its foreign parent,
when that parent was copied, and empties the list. -/
def finalizeClones (a : Assembly) (cm : CloneMap) : Assembly × CloneMap :=
  let a := cm.pending.foldl (fun a (c, p) =>
    match cm.lookup? (.link p), (a.body c).root with
    | some cp, some r => a.modifyLink r fun l => { l with parent := some ⟨cp⟩ }
    | _, _ => a) a
  (a, { cm with pending := #[] })

end Assembly

end Multibody
