/-!
# Vectors in space

Three-component vectors with the operations of rigid-body kinematics, over
any numbers with the operations they use; the program's are doubles.  Every
operation is written out component by component in a fixed order, so that
results are reproducible to the last bit: a sum of three products is always
added left to right.
-/

namespace Multibody

/-- Numbers with a square root: lengths of vectors take it.  Doubles take
`Float.sqrt`. -/
class SquareRoot (α : Type) where
  sqrt : α → α

instance : SquareRoot Float := ⟨Float.sqrt⟩

/-- A vector of three numbers, doubles unless said otherwise. -/
structure Vec3 (α : Type := Float) where
  x : α
  y : α
  z : α
  deriving Inhabited

namespace Vec3

section Arithmetic

variable {α : Type}

/-- The zero vector. -/
def zero [OfScientific α] : Vec3 α := ⟨0.0, 0.0, 0.0⟩

/-- The unit vector along `z`. -/
def unitZ [OfScientific α] : Vec3 α := ⟨0.0, 0.0, 1.0⟩

instance [Add α] : Add (Vec3 α) := ⟨fun a b => ⟨a.x + b.x, a.y + b.y, a.z + b.z⟩⟩
instance [Sub α] : Sub (Vec3 α) := ⟨fun a b => ⟨a.x - b.x, a.y - b.y, a.z - b.z⟩⟩

/-- Scaling by a number. -/
def scale [Mul α] (v : Vec3 α) (c : α) : Vec3 α := ⟨v.x * c, v.y * c, v.z * c⟩

/-- The dot product, summed left to right. -/
def dot [Add α] [Mul α] (a b : Vec3 α) : α := a.x * b.x + a.y * b.y + a.z * b.z

/-- The cross product. -/
def cross [Sub α] [Mul α] (a b : Vec3 α) : Vec3 α :=
  ⟨a.y * b.z - a.z * b.y, a.z * b.x - a.x * b.z, a.x * b.y - a.y * b.x⟩

/-- Euclidean length. -/
def length [Add α] [Mul α] [SquareRoot α] (v : Vec3 α) : α :=
  SquareRoot.sqrt (v.x * v.x + v.y * v.y + v.z * v.z)

/-- The vector scaled by the reciprocal of its length; the zero vector gives
NaN components. -/
def normalize [OfScientific α] [Add α] [Mul α] [Div α] [SquareRoot α] (v : Vec3 α) : Vec3 α :=
  v.scale (1.0 / v.length)

end Arithmetic

/-- Components as a list. -/
def toList (v : Vec3) : List Float := [v.x, v.y, v.z]

/-- A vector from the first three entries of a list, missing ones zero. -/
def ofList (xs : List Float) : Vec3 := ⟨xs.getD 0 0.0, xs.getD 1 0.0, xs.getD 2 0.0⟩

/-- Componentwise bit equality, so that `-0.0` and `0.0` differ and a NaN
equals itself. -/
def sameBits (a b : Vec3) : Bool :=
  a.x.toBits == b.x.toBits && a.y.toBits == b.y.toBits && a.z.toBits == b.z.toBits

end Vec3

end Multibody
