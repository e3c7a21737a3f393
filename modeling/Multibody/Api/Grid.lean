import Multibody.Api.Fields
import Multibody.Tuning.Grid

/-!
# Grid requests

The `grid` request lists the points of a parameter grid and ranks given
scores, `null` standing for a point without a score.
-/

namespace Multibody.Api

/-- A grid point as an object. -/
def pointJson (p : Tuning.Point) : Json := .obj (p.map fun (n, v) => (n, .num v))

/-- A list of scores; `null` is a point without a score. -/
def scoresOf (key : String) (v : Json) : Reply (List Float) :=
  v.items.mapM fun x =>
    match x with
    | .null => .ok (0.0 / 0.0)
    | _ =>
      match x.float? with
      | some f => .ok f
      | none => .error (badInput ("field " ++ key ++ ": not a number"))

/-- The `grid` request. -/
def gridAnswer (req : Json) : Reply Json := do
  let names ← (list req "names").mapM fun n =>
    match n with
    | .str s => Except.ok s
    | _ => .error (badInput "field names: not a string")
  let ranges ← (list req "ranges").mapM fun r => do
    let xs ← floatsOf "ranges" r
    pure xs.toList
  let mut out : List (String × Json) := []
  if names.length ≤ ranges.length then
    out := out ++ [("points", .arr ((Tuning.points names ranges).map pointJson))]
  if let some s := req.get? "scores" then
    let scores ← scoresOf "scores" s
    out := out ++ [("ranked", .arr ((Tuning.ranked scores).map fun i => Json.int (Int.ofNat i)))]
  return .obj out

end Multibody.Api
