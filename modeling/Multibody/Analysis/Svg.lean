import Multibody.Analysis.Portrait
import Multibody.Decimal.Format

/-!
# Trajectories as SVG

A trajectory of at least two points is drawn as one polyline on a dark
background, scaled to the picture with a tenth of each range as margin and
the vertical axis pointing up; coordinates have one decimal.
-/

namespace Multibody.Analysis

/-- The stroke colour used when none is given. -/
def defaultStroke : String := "#00ff00"

/-- The SVG text of a trajectory, empty below two points. -/
def trajectorySvg (pts : Array Point) (width height : Int) (stroke : String) : String :=
  if pts.size < 2 then ""
  else
    let stroke := if stroke.isEmpty then defaultStroke else stroke
    let p0 := pts[0]!
    let (minX, maxX, minY, maxY) := pts.foldl (fun (a, b, c, d) p =>
      (minNaN a p.x, maxNaN b p.x, minNaN c p.y, maxNaN d p.y)) (p0.x, p0.x, p0.y, p0.y)
    let rangeX := maxX - minX
    let rangeY := maxY - minY
    let rangeX := if rangeX == 0.0 then 1.0 else rangeX
    let rangeY := if rangeY == 0.0 then 1.0 else rangeY
    let minX := minX - rangeX * 0.1
    let minY := minY - rangeY * 0.1
    let rangeX := rangeX * 1.2
    let rangeY := rangeY * 1.2
    let w := Float.ofInt width
    let h := Float.ofInt height
    let coords := pts.toList.map fun p =>
      let x := (p.x - minX) / rangeX * w
      let y := h - (p.y - minY) / rangeY * h
      Decimal.fixed 1 x ++ "," ++ Decimal.fixed 1 y
    let path := " L".intercalate coords
    let ws := toString width
    let hs := toString height
    "<?xml version=\"1.0\" encoding=\"UTF-8\"?>\n" ++
    "<svg xmlns=\"http://www.w3.org/2000/svg\" width=\"" ++ ws ++ "\" height=\"" ++ hs ++
      "\" viewBox=\"0 0 " ++ ws ++ " " ++ hs ++ "\">\n" ++
    "<rect width=\"100%\" height=\"100%\" fill=\"#0a0a0a\"/>\n" ++
    "<path fill=\"none\" stroke=\"" ++ stroke ++ "\" stroke-width=\"1.5\" d=\"M" ++ path ++ "\"/>\n" ++
    "</svg>\n"

end Multibody.Analysis
