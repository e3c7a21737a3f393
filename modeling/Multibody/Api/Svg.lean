import Multibody.Api.Fields
import Multibody.Analysis.Svg

/-!
# SVG export as a request

The `svg` request draws a trajectory from `[x, y]` points, or a time series
from its times and values.
-/

namespace Multibody.Api

open Analysis

/-- A point from an `[x, y]` pair. -/
def pointOf (j : Json) : Reply Point := do
  let xs ← floatsOf "points" j
  return ⟨xs.getD 0 0.0, xs.getD 1 0.0⟩

/-- The `svg` request. -/
def svgAnswer (req : Json) : Reply Json := do
  let width ← int req "width" 800
  let height ← int req "height" 400
  match ← str req "fn" "" with
  | "trajectory" =>
    let pts ← (list req "points").mapM pointOf
    return .obj [("svg", .str (trajectorySvg pts.toArray width height (← str req "stroke" "")))]
  | "time_series" =>
    let svg := trajectorySvg (portrait (← floats req "times" #[]) (← floats req "values" #[])) width height ""
    if svg.isEmpty then throw (failure "export" "export: need at least two samples")
    return .obj [("svg", .str svg)]
  | other => throw (badInput ("unknown svg fn " ++ other))

end Multibody.Api
