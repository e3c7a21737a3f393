import Multibody.Geometry.Mat4

/-!
# Quaternions

Orientations as unit quaternions `w + xi + yj + zk`, read off a rotation
matrix by the largest-diagonal rule and turned back into a matrix.
-/

namespace Multibody

/-- A quaternion with scalar part `w`. -/
structure Quat where
  w : Float
  x : Float
  y : Float
  z : Float
  deriving Inhabited

namespace Quat

/-- The identity rotation. -/
def ident : Quat := ⟨1.0, 0.0, 0.0, 0.0⟩

/-- Components `[w, x, y, z]`. -/
def toList (q : Quat) : List Float := [q.w, q.x, q.y, q.z]

/-- The quaternion of components `[w, x, y, z]`, missing ones zero. -/
def ofList (xs : List Float) : Quat := ⟨xs.getD 0 0.0, xs.getD 1 0.0, xs.getD 2 0.0, xs.getD 3 0.0⟩

/-- The quaternion of the rotation block of `m`: from the trace when it is
positive, otherwise from the largest diagonal entry. -/
def ofMat4 (m : Mat4) : Quat :=
  let tr := m.m0 + m.m5 + m.m10
  if tr > 0.0 then
    let s := 0.5 / (tr + 1.0).sqrt
    ⟨0.25 / s, (m.m6 - m.m9) * s, (m.m8 - m.m2) * s, (m.m1 - m.m4) * s⟩
  else if m.m0 > m.m5 && m.m0 > m.m10 then
    let s := 2.0 * (1.0 + m.m0 - m.m5 - m.m10).sqrt
    ⟨(m.m6 - m.m9) / s, 0.25 * s, (m.m4 + m.m1) / s, (m.m8 + m.m2) / s⟩
  else if m.m5 > m.m10 then
    let s := 2.0 * (1.0 + m.m5 - m.m0 - m.m10).sqrt
    ⟨(m.m8 - m.m2) / s, (m.m4 + m.m1) / s, 0.25 * s, (m.m9 + m.m6) / s⟩
  else
    let s := 2.0 * (1.0 + m.m10 - m.m0 - m.m5).sqrt
    ⟨(m.m1 - m.m4) / s, (m.m8 + m.m2) / s, (m.m9 + m.m6) / s, 0.25 * s⟩

/-- The rotation matrix of a quaternion, with no translation. -/
def toMat4 (q : Quat) : Mat4 :=
  let w := q.w
  let x := q.x
  let y := q.y
  let z := q.z
  ⟨1.0 - 2.0 * y * y - 2.0 * z * z, 2.0 * x * y + 2.0 * w * z, 2.0 * x * z - 2.0 * w * y, 0.0,
   2.0 * x * y - 2.0 * w * z, 1.0 - 2.0 * x * x - 2.0 * z * z, 2.0 * y * z + 2.0 * w * x, 0.0,
   2.0 * x * z + 2.0 * w * y, 2.0 * y * z - 2.0 * w * x, 1.0 - 2.0 * x * x - 2.0 * y * y, 0.0,
   0.0, 0.0, 0.0, 1.0⟩

end Quat

end Multibody
