import Multibody.Decimal.Read

/-!
# JSON values

The data the lab reads and writes as JSON: run metadata, exported tracks and
the request interface.  Objects keep their members in the order written, since
the files the lab produces list fields in a fixed order.  A number is an
integer when it was written as one, and a double otherwise.
-/

namespace Multibody

/-- A JSON value; object members in the order they were written. -/
inductive Json where
  | null
  | bool (b : Bool)
  | int (i : Int)
  | num (x : Float)
  | str (s : String)
  | arr (items : List Json)
  | obj (fields : List (String × Json))
  deriving Inhabited

namespace Json

/-- The member `key` of an object; a `null` member counts as absent. -/
def get? (j : Json) (key : String) : Option Json :=
  match j with
  | .obj fs =>
    match fs.find? (·.1 == key) with
    | some (_, .null) => none
    | some (_, v) => some v
    | none => none
  | _ => none

/-- Whether `key` is a member that is not `null`. -/
def has (j : Json) (key : String) : Bool := (j.get? key).isSome

/-- Items of an array, or `[]` for any other value. -/
def items (j : Json) : List Json :=
  match j with
  | .arr xs => xs
  | _ => []

/-- Members of an object, or `[]` for any other value. -/
def fields (j : Json) : List (String × Json) :=
  match j with
  | .obj fs => fs
  | _ => []

/-- A string value. -/
def str? (j : Json) : Option String :=
  match j with
  | .str s => some s
  | _ => none

/-- A boolean value. -/
def bool? (j : Json) : Option Bool :=
  match j with
  | .bool b => some b
  | _ => none

/-- An integer value, written without point or exponent. -/
def int? (j : Json) : Option Int :=
  match j with
  | .int i => some i
  | _ => none

/-- A number as a double; the strings `NaN`, `Infinity`, `inf`, `+inf`,
`-Infinity`, `-inf` and `-0` spell the values JSON has no literal for. -/
def float? (j : Json) : Option Float :=
  match j with
  | .int i => some (Decimal.ofDecimal (i < 0) i.natAbs 0)
  | .num x => some x
  | .str "NaN" => some (0.0 / 0.0)
  | .str "Infinity" | .str "inf" | .str "+inf" => some (1.0 / 0.0)
  | .str "-Infinity" | .str "-inf" => some (-1.0 / 0.0)
  | .str "-0" => some (-0.0)
  | _ => none

/-- An object from members. -/
def mk (fs : List (String × Json)) : Json := .obj fs

/-- A JSON array of doubles. -/
def ofFloats (xs : List Float) : Json := .arr (xs.map .num)

/-- A JSON array of strings. -/
def ofStrings (xs : List String) : Json := .arr (xs.map .str)

/-- The value, or `null` without one. -/
def opt {α : Type} (f : α → Json) : Option α → Json
  | some a => f a
  | none => .null

/-- A string or `null`. -/
def optStr (s : Option String) : Json := opt .str s

end Json

end Multibody
