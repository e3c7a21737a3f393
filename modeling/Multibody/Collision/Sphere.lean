import Multibody.Body.Assembly

/-!
# Sphere contacts

The collision detector treats every link with a positive-radius shape as a
sphere.  Bodies are registered in order, each with or without collisions
among its own links.  Detection tests every pair of spheres of different
bodies (in registration order) and, for bodies with self-collision, every
pair of non-adjacent spheres of the same body; a pair of two static links is
skipped.  Two spheres touch when the distance of their centres is below the
sum of their radii; the contact normal points from the first towards the
second, and the contact point lies half the depth inside the first sphere's
surface.
-/

namespace Multibody

/-- A registered sphere: its link, radius, and whether the link was static
when registered. -/
structure SphereLink (α : Type := Float) where
  link : LinkId
  radius : α
  static : Bool
  deriving Inhabited

/-- A registered body with its spheres. -/
structure SphereBody (α : Type := Float) where
  body : BodyId
  selfCollision : Bool
  links : Array (SphereLink α)
  deriving Inhabited

/-- One contact of a touching pair. -/
structure Contact (α : Type := Float) where
  point : Vec3 α
  normal : Vec3 α
  depth : α
  deriving Inhabited

/-- Two touching links and their contacts. -/
structure LinkPair (α : Type := Float) where
  linkA : LinkId
  linkB : LinkId
  contacts : Array (Contact α)
  deriving Inhabited

/-- The sphere detector's registrations. -/
structure SphereDetector (α : Type := Float) where
  bodies : Array (SphereBody α) := #[]
  ready : Bool := false
  pairs : Nat := 0
  deriving Inhabited

/-- The centre of a link's shape in the world, as the link is posed. -/
def Assembly.worldCentre (a : Assembly) (l : LinkId) : Vec3 :=
  let k := a.link l
  k.worldPoint ((k.shape.map (·.geom.center)).getD Vec3.zero)

namespace SphereDetector

/-- The detector's name. -/
def name : String := "sphere"

/-- Registers the spheres of a body. -/
def addBody (d : SphereDetector) (a : Assembly) (b : BodyId) (selfCollision : Bool) : SphereDetector :=
  let links := (a.body b).links.filterMap fun l =>
    match (a.link l).shape with
    | some s => if s.geom.radius ≤ 0.0 then none else some ⟨l, s.geom.radius, a.isStatic l⟩
    | none => none
  { d with bodies := d.bodies.push ⟨b, selfCollision, links⟩, ready := false }

/-- Counts the candidate pairs; `true` when there is at least one. -/
def makeReady {α : Type} (d : SphereDetector α) : SphereDetector α × Bool :=
  let n := d.bodies.size
  let pairs := (List.range n).foldl (fun acc i =>
    let sa := d.bodies[i]!
    let own := if sa.selfCollision then sa.links.size * (sa.links.size - 1) / 2 else 0
    let cross := (List.range n).foldl (fun c j =>
      if j > i then c + sa.links.size * d.bodies[j]!.links.size else c) 0
    acc + own + cross) 0
  ({ d with pairs := pairs, ready := true }, pairs > 0)

/-- Links joined directly as parent and child, by their parents. -/
def adjacent (parent : LinkId → Option LinkId) (x y : LinkId) : Bool :=
  parent x == some y || parent y == some x

/-! Detection reads the world centres of the links and their parents; it runs
over any numbers with the operations it uses, and the program runs it on
doubles. -/

section Detection

variable {α : Type} [OfScientific α] [Add α] [Sub α] [Mul α] [Div α] [LE α] [LT α]
  [DecidableLE α] [DecidableLT α] [SquareRoot α] [Inhabited α]

/-- The contact of two spheres by their centres and radii, if they overlap. -/
def contactOf (ca cb : Vec3 α) (ra rb : α) : Option (Contact α) :=
  let delta := cb - ca
  let dist := delta.length
  let depth := ra + rb - dist
  if depth ≤ 0.0 then none
  else
    let normal := if dist > 0.0 then delta.scale (1.0 / dist) else Vec3.unitZ
    some ⟨ca + normal.scale (ra - depth / 2.0), normal, depth⟩

/-- The pair of two spheres with the given world centres, if they overlap and
are not both static. -/
def testAt (centre : LinkId → Vec3 α) (sa sb : SphereLink α) : Option (LinkPair α) :=
  if sa.static && sb.static then none
  else (contactOf (centre sa.link) (centre sb.link) sa.radius sb.radius).map
    fun c => ⟨sa.link, sb.link, #[c]⟩

/-- Every touching pair, in registration order. -/
def pairsAt (d : SphereDetector α) (centre : LinkId → Vec3 α) (parent : LinkId → Option LinkId) :
    Array (LinkPair α) :=
  let n := d.bodies.size
  (List.range n).foldl (fun acc i =>
    let sa := d.bodies[i]!
    let acc :=
      if sa.selfCollision then
        let m := sa.links.size
        (List.range m).foldl (fun acc x =>
          (List.range m).foldl (fun acc y =>
            if y ≤ x then acc
            else
              let la := sa.links[x]!
              let lb := sa.links[y]!
              if adjacent parent la.link lb.link then acc
              else match testAt centre la lb with
                | some p => acc.push p
                | none => acc) acc) acc
      else acc
    (List.range n).foldl (fun acc j =>
      if j ≤ i then acc
      else
        let sb := d.bodies[j]!
        sa.links.foldl (fun acc la =>
          sb.links.foldl (fun acc lb =>
            match testAt centre la lb with
            | some p => acc.push p
            | none => acc) acc) acc) acc) #[]

end Detection

/-- Every touching pair at the assembly's pose, in registration order; an
unready detector counts its pairs first. -/
def detect (d : SphereDetector) (a : Assembly) : SphereDetector × Array LinkPair :=
  let d := if d.ready then d else (d.makeReady).1
  (d, d.pairsAt a.worldCentre fun l => (a.link l).parent)

/-- Forgets every registration. -/
def clear (_d : SphereDetector) : SphereDetector := {}

end SphereDetector

end Multibody
