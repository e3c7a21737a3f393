import Multibody.Geometry.Vec3

/-!
# 3×3 matrices

Rotations and inertia tensors, stored column-major: entry `mI` is row
`I % 3` of column `I / 3`.  Products sum their terms left to right.
-/

namespace Multibody

/-- A 3×3 matrix, column-major, of doubles unless said otherwise. -/
structure Mat3 (α : Type := Float) where
  m0 : α
  m1 : α
  m2 : α
  m3 : α
  m4 : α
  m5 : α
  m6 : α
  m7 : α
  m8 : α
  deriving Inhabited

namespace Mat3

/-- The identity. -/
def ident : Mat3 := ⟨1.0, 0.0, 0.0, 0.0, 1.0, 0.0, 0.0, 0.0, 1.0⟩

/-- The zero matrix. -/
def zero : Mat3 := ⟨0.0, 0.0, 0.0, 0.0, 0.0, 0.0, 0.0, 0.0, 0.0⟩

/-- Entries in column-major order. -/
def toList (m : Mat3) : List Float := [m.m0, m.m1, m.m2, m.m3, m.m4, m.m5, m.m6, m.m7, m.m8]

/-- A matrix from nine column-major entries, missing ones zero. -/
def ofList (xs : List Float) : Mat3 :=
  ⟨xs.getD 0 0.0, xs.getD 1 0.0, xs.getD 2 0.0, xs.getD 3 0.0, xs.getD 4 0.0,
   xs.getD 5 0.0, xs.getD 6 0.0, xs.getD 7 0.0, xs.getD 8 0.0⟩

section Arithmetic

variable {α : Type} [Add α] [Mul α]

/-- Matrix product `a * b`. -/
def mul (a b : Mat3 α) : Mat3 α :=
  ⟨a.m0 * b.m0 + a.m3 * b.m1 + a.m6 * b.m2,
   a.m1 * b.m0 + a.m4 * b.m1 + a.m7 * b.m2,
   a.m2 * b.m0 + a.m5 * b.m1 + a.m8 * b.m2,
   a.m0 * b.m3 + a.m3 * b.m4 + a.m6 * b.m5,
   a.m1 * b.m3 + a.m4 * b.m4 + a.m7 * b.m5,
   a.m2 * b.m3 + a.m5 * b.m4 + a.m8 * b.m5,
   a.m0 * b.m6 + a.m3 * b.m7 + a.m6 * b.m8,
   a.m1 * b.m6 + a.m4 * b.m7 + a.m7 * b.m8,
   a.m2 * b.m6 + a.m5 * b.m7 + a.m8 * b.m8⟩

/-- Matrix times column vector. -/
def apply (m : Mat3 α) (v : Vec3 α) : Vec3 α :=
  ⟨m.m0 * v.x + m.m3 * v.y + m.m6 * v.z,
   m.m1 * v.x + m.m4 * v.y + m.m7 * v.z,
   m.m2 * v.x + m.m5 * v.y + m.m8 * v.z⟩

end Arithmetic

/-- The transpose. -/
def transpose {α : Type} (m : Mat3 α) : Mat3 α := ⟨m.m0, m.m3, m.m6, m.m1, m.m4, m.m7, m.m2, m.m5, m.m8⟩

/-- Every entry times `c`. -/
def scale (m : Mat3) (c : Float) : Mat3 :=
  ⟨m.m0 * c, m.m1 * c, m.m2 * c, m.m3 * c, m.m4 * c, m.m5 * c, m.m6 * c, m.m7 * c, m.m8 * c⟩

/-- The determinant by the rule of Sarrus, terms in a fixed order. -/
def det (m : Mat3) : Float :=
  m.m0 * m.m4 * m.m8 + m.m3 * m.m7 * m.m2 + m.m6 * m.m1 * m.m5 -
    m.m6 * m.m4 * m.m2 - m.m3 * m.m1 * m.m8 - m.m0 * m.m7 * m.m5

/-- A determinant counts as zero below `1e-20` in magnitude (the square of
the matrix tolerance `1e-10`). -/
def negligible (d : Float) : Bool :=
  d == 0.0 || (d - 0.0).abs < 1e-20

/-- The inverse from the adjugate; a matrix with a negligible determinant
gives the zero matrix. -/
def inv (m : Mat3) : Mat3 :=
  let d := m.det
  if negligible d then zero
  else
    let adj : Mat3 :=
      ⟨m.m4 * m.m8 - m.m5 * m.m7, m.m2 * m.m7 - m.m1 * m.m8, m.m1 * m.m5 - m.m2 * m.m4,
       m.m5 * m.m6 - m.m3 * m.m8, m.m0 * m.m8 - m.m2 * m.m6, m.m2 * m.m3 - m.m0 * m.m5,
       m.m3 * m.m7 - m.m4 * m.m6, m.m1 * m.m6 - m.m0 * m.m7, m.m0 * m.m4 - m.m1 * m.m3⟩
    adj.scale (1.0 / d)

end Mat3

end Multibody
