import Multibody.Geometry.Mat3
import Multibody.Numeric.Circular

/-!
# Homogeneous transforms

4×4 double matrices, column-major like `Mat3`: the translation of a rigid
transform sits in entries 12, 13 and 14.  Rotations about an axis use the
sine and cosine of `Circular`, and the axis is used as given (a non-unit axis
scales the result).
-/

namespace Multibody

/-- A 4×4 double matrix, column-major. -/
structure Mat4 where
  m0 : Float
  m1 : Float
  m2 : Float
  m3 : Float
  m4 : Float
  m5 : Float
  m6 : Float
  m7 : Float
  m8 : Float
  m9 : Float
  m10 : Float
  m11 : Float
  m12 : Float
  m13 : Float
  m14 : Float
  m15 : Float
  deriving Inhabited

namespace Mat4

/-- The identity. -/
def ident : Mat4 :=
  ⟨1.0, 0.0, 0.0, 0.0, 0.0, 1.0, 0.0, 0.0, 0.0, 0.0, 1.0, 0.0, 0.0, 0.0, 0.0, 1.0⟩

/-- Entries in column-major order. -/
def toList (m : Mat4) : List Float :=
  [m.m0, m.m1, m.m2, m.m3, m.m4, m.m5, m.m6, m.m7, m.m8, m.m9, m.m10, m.m11,
   m.m12, m.m13, m.m14, m.m15]

/-- A matrix from sixteen column-major entries, missing ones zero. -/
def ofList (xs : List Float) : Mat4 :=
  let g (i : Nat) := xs.getD i 0.0
  ⟨g 0, g 1, g 2, g 3, g 4, g 5, g 6, g 7, g 8, g 9, g 10, g 11, g 12, g 13, g 14, g 15⟩

/-- Matrix product `a * b`; entry `(r, c)` is `Σₖ a(r,k) · b(k,c)` added left to right. -/
def mul (a b : Mat4) : Mat4 :=
  ⟨a.m0 * b.m0 + a.m4 * b.m1 + a.m8 * b.m2 + a.m12 * b.m3,
   a.m1 * b.m0 + a.m5 * b.m1 + a.m9 * b.m2 + a.m13 * b.m3,
   a.m2 * b.m0 + a.m6 * b.m1 + a.m10 * b.m2 + a.m14 * b.m3,
   a.m3 * b.m0 + a.m7 * b.m1 + a.m11 * b.m2 + a.m15 * b.m3,
   a.m0 * b.m4 + a.m4 * b.m5 + a.m8 * b.m6 + a.m12 * b.m7,
   a.m1 * b.m4 + a.m5 * b.m5 + a.m9 * b.m6 + a.m13 * b.m7,
   a.m2 * b.m4 + a.m6 * b.m5 + a.m10 * b.m6 + a.m14 * b.m7,
   a.m3 * b.m4 + a.m7 * b.m5 + a.m11 * b.m6 + a.m15 * b.m7,
   a.m0 * b.m8 + a.m4 * b.m9 + a.m8 * b.m10 + a.m12 * b.m11,
   a.m1 * b.m8 + a.m5 * b.m9 + a.m9 * b.m10 + a.m13 * b.m11,
   a.m2 * b.m8 + a.m6 * b.m9 + a.m10 * b.m10 + a.m14 * b.m11,
   a.m3 * b.m8 + a.m7 * b.m9 + a.m11 * b.m10 + a.m15 * b.m11,
   a.m0 * b.m12 + a.m4 * b.m13 + a.m8 * b.m14 + a.m12 * b.m15,
   a.m1 * b.m12 + a.m5 * b.m13 + a.m9 * b.m14 + a.m13 * b.m15,
   a.m2 * b.m12 + a.m6 * b.m13 + a.m10 * b.m14 + a.m14 * b.m15,
   a.m3 * b.m12 + a.m7 * b.m13 + a.m11 * b.m14 + a.m15 * b.m15⟩

/-- The translation by `(x, y, z)`. -/
def translation (x y z : Float) : Mat4 :=
  ⟨1.0, 0.0, 0.0, 0.0, 0.0, 1.0, 0.0, 0.0, 0.0, 0.0, 1.0, 0.0, x, y, z, 1.0⟩

/-- The rotation by `angle` about `axis` (Rodrigues), the axis used as given. -/
def rotation (angle : Float) (axis : Vec3) : Mat4 :=
  let x := axis.x
  let y := axis.y
  let z := axis.z
  let s := Circular.sin angle
  let c := Circular.cos angle
  let k := 1.0 - c
  ⟨x * x * k + c, x * y * k + z * s, x * z * k - y * s, 0.0,
   x * y * k - z * s, y * y * k + c, y * z * k + x * s, 0.0,
   x * z * k + y * s, y * z * k - x * s, z * z * k + c, 0.0,
   0.0, 0.0, 0.0, 1.0⟩

/-- The upper-left 3×3 block: the rotation part. -/
def rotationPart (m : Mat4) : Mat3 := ⟨m.m0, m.m1, m.m2, m.m4, m.m5, m.m6, m.m8, m.m9, m.m10⟩

/-- The translation column. -/
def translationPart (m : Mat4) : Vec3 := ⟨m.m12, m.m13, m.m14⟩

/-- A rotation block embedded with no translation. -/
def ofMat3 (r : Mat3) : Mat4 :=
  ⟨r.m0, r.m1, r.m2, 0.0, r.m3, r.m4, r.m5, 0.0, r.m6, r.m7, r.m8, 0.0, 0.0, 0.0, 0.0, 1.0⟩

/-- The matrix with its last column replaced by `(v, w)`. -/
def withTranslation (m : Mat4) (v : Vec3) (w : Float) : Mat4 :=
  { m with m12 := v.x, m13 := v.y, m14 := v.z, m15 := w }

/-- The image of the point `v` (homogeneous coordinate 1), divided by the
resulting homogeneous coordinate. -/
def transformPoint (m : Mat4) (v : Vec3) : Vec3 :=
  let x := m.m0 * v.x + m.m4 * v.y + m.m8 * v.z + m.m12 * 1.0
  let y := m.m1 * v.x + m.m5 * v.y + m.m9 * v.z + m.m13 * 1.0
  let z := m.m2 * v.x + m.m6 * v.y + m.m10 * v.z + m.m14 * 1.0
  let w := m.m3 * v.x + m.m7 * v.y + m.m11 * v.z + m.m15 * 1.0
  let s := 1.0 / w
  ⟨x * s, y * s, z * s⟩

end Mat4

end Multibody
