import Multibody.Api.Fields
import Multibody.Analysis.Portrait

/-!
# Series analysis as a request

The `analysis` request runs one function on the series it carries: the
transform, the power spectrum, the dominant frequency, a phase portrait, or a
Poincaré section.
-/

namespace Multibody.Api

open Analysis

/-- Points as `[x, y]` pairs. -/
def pointsJson (pts : Array Point) : Json := .arr (pts.toList.map fun p => Json.ofFloats [p.x, p.y])

/-- The `analysis` request. -/
def analysisAnswer (req : Json) : Reply Json := do
  match ← str req "fn" "" with
  | "fft" =>
    match fft (← floats req "data" #[]) with
    | some zs => return .obj [("fft", .arr (zs.toList.map fun z => Json.ofFloats [z.re, z.im, z.abs]))]
    | none => throw (failure "panic" "fft requires power of 2 length")
  | "power_spectrum" => return .obj [("ps", floatsJson (powerSpectrum (← floats req "data" #[])))]
  | "dominant_frequency" =>
    match dominantFrequency (← floats req "data" #[]) (← float req "dt" 0.0) with
    | some f => return .obj [("frequency", .num f)]
    | none => throw (failure "analysis" "analysis: series too short")
  | "phase" =>
    let pts := portrait (← floats req "x" #[]) (← floats req "y" #[])
    let drawn := if ← bool req "nil" false then #[] else pts
    let ascii ← ofFault (asciiPortrait drawn (← int req "width" 40) (← int req "height" 12))
    return .obj [("ascii", .str ascii), ("points", .int pts.size)]
  | "poincare" =>
    let pts := poincareSection (← floats req "cross" #[]) (← floats req "x" #[]) (← floats req "y" #[])
      (← float req "threshold" 0.0)
    let width ← int req "width" 40
    let height ← int req "height" 12
    let drawn : List (String × Json) ←
      if req.has "width" || req.has "height" then
        pure [("ascii", .str (← ofFault (asciiPortrait pts width height)))]
      else pure []
    return .obj ([("points", pointsJson pts)] ++ drawn)
  | other => throw (badInput ("unknown analysis fn " ++ other))

end Multibody.Api
