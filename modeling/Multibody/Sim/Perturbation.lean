import Multibody.Geometry.Mat4

/-!
# Perturbations

Commands that act on the bodies of a run from outside: external forces (for
a duration or until cleared), virtual elastic strings pulling a point of a
link towards a goal, and forced root poses.  A force or string replaces an
earlier one on the same link of the same item; a forced pose replaces an
earlier one of the same item (`replaceByKey`).
-/

namespace Multibody.Sim

/-- Spring constant of a virtual elastic string per kilogram of body mass. -/
def stringStiffness : Float := 100.0

/-- The index a link argument stands for: no link means the root, index 0. -/
def linkIndex (link : Option Int) : Int := link.getD 0

/-- A force on a link, at a point in link coordinates; a positive duration
in simulated seconds, or zero for until cleared. -/
structure ForceCommand where
  item : Nat
  link : Int
  seq : Nat
  point : Vec3
  force : Vec3
  duration : Float
  deriving Inhabited

/-- The link a force acts on, by item and link index. -/
def ForceCommand.key (f : ForceCommand) : Nat × Int := (f.item, f.link)

/-- A string from a point of a link (link coordinates) to a world goal. -/
structure StringCommand where
  item : Nat
  link : Int
  attach : Vec3
  goal : Vec3
  deriving Inhabited

/-- The link a string pulls, by item and link index. -/
def StringCommand.key (s : StringCommand) : Nat × Int := (s.item, s.link)

/-- A root pose held before and after every step. -/
structure ForcedPose where
  item : Nat
  pose : Mat4
  deriving Inhabited

/-- The commands in force. -/
structure Perturbations where
  forces : Array ForceCommand := #[]
  strings : Array StringCommand := #[]
  forced : Array ForcedPose := #[]
  deriving Inhabited

/-- Puts `x` in the place of the first entry with its key, or after the
last entry when none has it. -/
def replaceByKey {α κ : Type} [BEq κ] (key : α → κ) (xs : Array α) (x : α) : Array α :=
  match xs.findIdx? (key · == key x) with
  | some i => xs.set! i x
  | none => xs.push x

namespace Perturbations

/-- Adds a force, replacing one on the same link. -/
def withForce (p : Perturbations) (f : ForceCommand) : Perturbations :=
  { p with forces := replaceByKey ForceCommand.key p.forces f }

/-- Adds a string, replacing one on the same link. -/
def withString (p : Perturbations) (s : StringCommand) : Perturbations :=
  { p with strings := replaceByKey StringCommand.key p.strings s }

/-- Forces a pose, replacing one of the same item. -/
def withForced (p : Perturbations) (f : ForcedPose) : Perturbations :=
  { p with forced := replaceByKey ForcedPose.item p.forced f }

/-- Whether an item's pose is forced. -/
def isForced (p : Perturbations) (item : Nat) : Bool := p.forced.any (·.item == item)

/-- Whether no command is in force. -/
def isEmpty (p : Perturbations) : Bool :=
  p.forces.isEmpty && p.strings.isEmpty && p.forced.isEmpty

end Perturbations

end Multibody.Sim
