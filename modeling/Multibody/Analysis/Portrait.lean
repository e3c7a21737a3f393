import Multibody.Analysis.Spectrum
import Multibody.Fault

/-!
# Phase portraits

A phase portrait pairs two series sample by sample.  Drawn as text, its
points are scaled into a grid with a tenth of the range as margin on each
side, marked `•`, and the axes are drawn where zero lies inside the margins,
`│` and `─`, without covering points.  A point whose cell lies outside the
grid is left out; an axis cell is not checked, and one outside the grid is an
index fault.  A Poincaré section keeps the points
where a third series crosses a threshold upwards, interpolated linearly
between the samples around the crossing.
-/

namespace Multibody.Analysis

/-- A point of a portrait. -/
structure Point where
  x : Float
  y : Float
  deriving Inhabited

/-- The smaller of two doubles, NaN when either is. -/
def minNaN (a b : Float) : Float :=
  if a.isNaN || b.isNaN then 0.0 / 0.0 else if b < a then b else a

/-- The larger of two doubles, NaN when either is. -/
def maxNaN (a b : Float) : Float :=
  if a.isNaN || b.isNaN then 0.0 / 0.0 else if b > a then b else a

/-- Pairs two series sample by sample, up to the shorter length. -/
def portrait (xs ys : Array Float) : Array Point :=
  (Array.range (min xs.size ys.size)).map fun i => ⟨xs[i]!, ys[i]!⟩

/-- The points where `cross` passes `threshold` going up, interpolated
between the samples around each crossing. -/
def poincareSection (cross xs ys : Array Float) (threshold : Float) : Array Point :=
  let n := min cross.size (min xs.size ys.size)
  (List.range n).drop 1 |>.foldl (fun acc i =>
    let prev := cross[i - 1]!
    let curr := cross[i]!
    if prev ≥ threshold || curr < threshold then acc
    else
      let frac := (threshold - prev) / (curr - prev)
      acc.push ⟨xs[i - 1]! + frac * (xs[i]! - xs[i - 1]!), ys[i - 1]! + frac * (ys[i]! - ys[i - 1]!)⟩) #[]

/-- Sets a grid cell when it lies inside the grid. -/
def setCell (grid : Array (Array Char)) (r c : Int) (ch : Char) (onlyBlank : Bool) : Array (Array Char) :=
  if r < 0 || c < 0 || r ≥ grid.size then grid
  else
    let row := grid[r.toNat]!
    if c ≥ row.size then grid
    else if onlyBlank && row[c.toNat]! != ' ' then grid
    else grid.set! r.toNat (row.set! c.toNat ch)

/-- Where a portrait's points fall on a grid of `width` by `height` cells:
the bounds of the points, each widened by a tenth of their range. -/
structure Frame where
  minX : Float
  maxX : Float
  minY : Float
  maxY : Float
  width : Int
  height : Int

/-- The frame of a portrait's points: their bounds, a range of zero taken as
one, widened by a tenth of the range on each side. -/
def Frame.of (pts : Array Point) (width height : Int) : Frame :=
  let p0 := pts[0]!
  let (minX, maxX, minY, maxY) := pts.foldl (fun (a, b, c, d) p =>
    (minNaN a p.x, maxNaN b p.x, minNaN c p.y, maxNaN d p.y)) (p0.x, p0.x, p0.y, p0.y)
  let rangeX := maxX - minX
  let rangeY := maxY - minY
  let rangeX := if rangeX == 0.0 then 1.0 else rangeX
  let rangeY := if rangeY == 0.0 then 1.0 else rangeY
  { minX := minX - rangeX * 0.1, maxX := maxX + rangeX * 0.1,
    minY := minY - rangeY * 0.1, maxY := maxY + rangeY * 0.1, width := width, height := height }

/-- The column of an abscissa, its scaled place truncated to a 64-bit integer. -/
def Frame.col (f : Frame) (x : Float) : Int :=
  Decimal.truncInt ((x - f.minX) / (f.maxX - f.minX) * (f.width.toNat - 1).toFloat)

/-- The row of an ordinate, counted from the top in 64-bit integer arithmetic. -/
def Frame.row (f : Frame) (y : Float) : Int :=
  (Int64.ofInt (f.height - 1 -
    Decimal.truncInt ((y - f.minY) / (f.maxY - f.minY) * (f.height.toNat - 1).toFloat))).toInt

/-- The points marked on a grid; a point whose cell lies outside it is left out. -/
def Frame.plot (f : Frame) (pts : Array Point) (grid : Array (Array Char)) : Array (Array Char) :=
  pts.foldl (fun g p => setCell g (f.row p.y) (f.col p.x) '•' false) grid

/-- The vertical axis at column `c` of a grid `w` wide and `h` high, on the
blank cells of every row; a column outside the grid is read unchecked, so it
is the index fault of the first row. -/
def verticalAxis (grid : Array (Array Char)) (c : Int) (w h : Nat) : Except Fault (Array (Array Char)) :=
  if 0 ≤ c ∧ c < w then .ok ((List.range h).foldl (fun g (r : Nat) => setCell g r c '│' true) grid)
  else .error (.indexOutOfRange c w)

/-- The horizontal axis at row `r` of a grid `w` wide and `h` high, on the
blank cells of every column; a row outside the grid is read unchecked, so it
is the index fault of that row. -/
def horizontalAxis (grid : Array (Array Char)) (r : Int) (w h : Nat) : Except Fault (Array (Array Char)) :=
  if 0 ≤ r ∧ r < h then .ok ((List.range w).foldl (fun g (c : Nat) => setCell g r c '─' true) grid)
  else .error (.indexOutOfRange r h)

/-- The portrait drawn on a `width` by `height` grid, one line per row; empty
without points or below two columns or rows.  The axes are drawn where zero
lies inside the frame; when the frame's range is not finite the axis cell
can fall outside the grid, and drawing stops with the index fault there. -/
def asciiPortrait (pts : Array Point) (width height : Int) : Except Fault String :=
  if pts.isEmpty || width < 2 || height < 2 then .ok ""
  else do
    let f := Frame.of pts width height
    let w := width.toNat
    let h := height.toNat
    let grid := f.plot pts (Array.replicate h (Array.replicate w ' '))
    let grid ← if f.minX ≤ 0.0 && f.maxX ≥ 0.0 then verticalAxis grid (f.col 0.0) w h else pure grid
    let grid ← if f.minY ≤ 0.0 && f.maxY ≥ 0.0 then horizontalAxis grid (f.row 0.0) w h else pure grid
    return String.join (grid.toList.map fun line => String.ofList line.toList ++ "\n")

end Multibody.Analysis
