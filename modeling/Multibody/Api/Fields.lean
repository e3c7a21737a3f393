import Multibody.Json.Basic
import Multibody.Fault
import Multibody.Geometry.Quat

/-!
# Request fields

The lab answers JSON requests: each names an operation with `op` and gives
its arguments as members.  A handler reads members with defaults, and stops
with an error answer `{"error": kind, "message": text}` when a member has the
wrong shape.  Missing members and `null` take the default.
-/

namespace Multibody.Api

/-- A handler's result: the answer, or an error answer that ends the request. -/
abbrev Reply := Except Json

/-- The error answer of a kind and message. -/
def failure (kind message : String) : Json :=
  .obj [("error", .str kind), ("message", .str message)]

/-- The answer for a request that cannot be read. -/
def badInput (message : String) : Json := failure "bad_input" message

/-- The answer for a fault met while computing. -/
def faultAnswer (f : Fault) : Json := failure "panic" f.message

/-- Lifts a computation that may meet a fault. -/
def ofFault {α : Type} (r : Except Fault α) : Reply α :=
  match r with
  | .ok a => .ok a
  | .error f => .error (faultAnswer f)

/-- A double member. -/
def float (j : Json) (key : String) (default : Float) : Reply Float :=
  match j.get? key with
  | none => .ok default
  | some v =>
    match v.float? with
    | some x => .ok x
    | none => .error (badInput ("field " ++ key ++ ": not a number"))

/-- An integer member. -/
def int (j : Json) (key : String) (default : Int) : Reply Int :=
  match j.get? key with
  | none => .ok default
  | some (.int i) => .ok i
  | some _ => .error (badInput ("field " ++ key ++ ": not an integer"))

/-- A natural-number member; negative values count as zero. -/
def nat (j : Json) (key : String) (default : Nat) : Reply Nat := do
  let i ← int j key default
  return i.toNat

/-- A repeat count: absent or zero means once, a negative count means never. -/
def count (j : Json) (key : String) : Reply Nat := do
  let i ← int j key 0
  return if i = 0 then 1 else i.toNat

/-- A boolean member. -/
def bool (j : Json) (key : String) (default : Bool) : Reply Bool :=
  match j.get? key with
  | none => .ok default
  | some (.bool b) => .ok b
  | some _ => .error (badInput ("field " ++ key ++ ": not a boolean"))

/-- A string member. -/
def str (j : Json) (key : String) (default : String) : Reply String :=
  match j.get? key with
  | none => .ok default
  | some (.str s) => .ok s
  | some _ => .error (badInput ("field " ++ key ++ ": not a string"))

/-- A string member that may be absent. -/
def str? (j : Json) (key : String) : Reply (Option String) :=
  match j.get? key with
  | none => .ok none
  | some (.str s) => .ok (some s)
  | some _ => .error (badInput ("field " ++ key ++ ": not a string"))

/-- A double member that may be absent. -/
def float? (j : Json) (key : String) : Reply (Option Float) :=
  match j.get? key with
  | none => .ok none
  | some v =>
    match v.float? with
    | some x => .ok (some x)
    | none => .error (badInput ("field " ++ key ++ ": not a number"))

/-- An integer member that may be absent. -/
def int? (j : Json) (key : String) : Reply (Option Int) :=
  match j.get? key with
  | none => .ok none
  | some (.int i) => .ok (some i)
  | some _ => .error (badInput ("field " ++ key ++ ": not an integer"))

/-- A boolean member that may be absent. -/
def bool? (j : Json) (key : String) : Reply (Option Bool) :=
  match j.get? key with
  | none => .ok none
  | some (.bool b) => .ok (some b)
  | some _ => .error (badInput ("field " ++ key ++ ": not a boolean"))

/-- The doubles of an array value. -/
def floatsOf (key : String) (v : Json) : Reply (Array Float) :=
  match v with
  | .arr xs => xs.toArray.mapM fun x =>
      match x.float? with
      | some f => .ok f
      | none => .error (badInput ("field " ++ key ++ ": not a number"))
  | _ => .error (badInput ("field " ++ key ++ ": not an array"))

/-- An array-of-doubles member. -/
def floats (j : Json) (key : String) (default : Array Float) : Reply (Array Float) :=
  match j.get? key with
  | none => .ok default
  | some v => floatsOf key v

/-- An array-of-doubles member that may be absent. -/
def floats? (j : Json) (key : String) : Reply (Option (Array Float)) :=
  match j.get? key with
  | none => .ok none
  | some v => some <$> floatsOf key v

/-- A vector member `[x, y, z]`. -/
def vec3 (j : Json) (key : String) (default : Vec3) : Reply Vec3 := do
  match j.get? key with
  | none => return default
  | some v =>
    let xs ← floatsOf key v
    return Vec3.ofList xs.toList

/-- A vector member that may be absent. -/
def vec3? (j : Json) (key : String) : Reply (Option Vec3) := do
  match j.get? key with
  | none => return none
  | some v =>
    let xs ← floatsOf key v
    return some (Vec3.ofList xs.toList)

/-- An array-of-integers member. -/
def ints (j : Json) (key : String) : Reply (Array Int) :=
  match j.get? key with
  | none => .ok #[]
  | some (.arr xs) => xs.toArray.mapM fun x =>
      match x with
      | .int i => .ok i
      | _ => .error (badInput ("field " ++ key ++ ": not an integer"))
  | some _ => .error (badInput ("field " ++ key ++ ": not an array"))

/-- A member as a list of objects (or other values). -/
def list (j : Json) (key : String) : List Json := ((j.get? key).map Json.items).getD []

/-- A member as an object, `{}` when absent. -/
def object (j : Json) (key : String) : Json := (j.get? key).getD (.obj [])

/-- A transform: `{"matrix": [16]}`, or `{"pos", "rot": {"angle", "axis"}}`
meaning the translation followed by the rotation; absent means identity. -/
def transformOf (v : Json) : Reply Mat4 := do
  match v.get? "matrix" with
  | some m =>
    let xs ← floatsOf "matrix" m
    return Mat4.ofList xs.toList
  | none =>
    let pos ← vec3 v "pos" Vec3.zero
    let t := Mat4.translation pos.x pos.y pos.z
    match v.get? "rot" with
    | none => return t
    | some r =>
      let angle ← float r "angle" 0.0
      let axis ← vec3 r "axis" Vec3.zero
      return t.mul (Mat4.rotation angle axis)

/-- A transform member, identity when absent. -/
def transform (j : Json) (key : String) : Reply Mat4 :=
  match j.get? key with
  | none => .ok Mat4.ident
  | some v => transformOf v

/-- A transform member that may be absent. -/
def transform? (j : Json) (key : String) : Reply (Option Mat4) :=
  match j.get? key with
  | none => .ok none
  | some v => some <$> transformOf v

/-- A vector as JSON. -/
def vec3Json (v : Vec3) : Json := Json.ofFloats v.toList

/-- A matrix as sixteen column-major numbers. -/
def mat4Json (m : Mat4) : Json := Json.ofFloats m.toList

/-- A 3×3 matrix as nine column-major numbers. -/
def mat3Json (m : Mat3) : Json := Json.ofFloats m.toList

/-- Doubles as JSON. -/
def floatsJson (xs : Array Float) : Json := Json.ofFloats xs.toList

end Multibody.Api
