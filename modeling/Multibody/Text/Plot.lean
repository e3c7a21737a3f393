import Multibody.Decimal.Format

/-!
# Line plots in text

A series is drawn as a line on a grid of characters with a labelled value
axis, resampled to the width by linear interpolation, each value rounded
half away from zero to a row, steps drawn with box-drawing characters.
Label precision grows for ranges below one and drops for values of a
thousand and more; undefined values leave gaps.
-/

namespace Multibody.Text

open Decimal

/-- How a plot is drawn. -/
structure PlotStyle where
  height : Nat
  /-- points to resample to; zero keeps the series as it is -/
  width : Nat := 0
  precision : Nat := 2
  caption : String := ""
  offset : Nat := 3
  deriving Inhabited

/-- Rounds half away from zero. -/
def roundHalfAway (x : Float) : Float :=
  if x.isNaN then x
  else
    let a := x.abs
    let r := if a - a.floor ≥ 0.5 then a.ceil else a.floor
    if x < 0.0 then -r else r

/-- A series resampled to `count` points by linear interpolation; the ends
are kept. -/
def resample (data : Array Float) (count : Nat) : Array Float :=
  let n := data.size
  let spring := Float.ofNat (n - 1) / Float.ofNat (count - 1)
  let middle := (List.range (count - 2)).map fun k =>
    let s := Float.ofNat (k + 1) * spring
    let before := s.floor
    let b := data.getD (truncInt before).toNat 0.0
    let a := data.getD (truncInt s.ceil).toNat 0.0
    b + (a - b) * (s - before)
  #[data.getD 0 0.0] ++ middle.toArray ++ #[data.getD (n - 1) 0.0]

/-- The least and greatest defined values, infinite when there are none. -/
def valueRange (data : Array Float) : Float × Float :=
  data.foldl (fun (lo, hi) x => (if x < lo then x else lo, if x > hi then x else hi))
    (1.0 / 0.0, -1.0 / 0.0)

/-- The digits after the point in axis labels. -/
def labelPrecision (base : Nat) (lo hi : Float) : Nat :=
  let top := if hi.abs > lo.abs then hi.abs else lo.abs
  let logMax := if lo == 0.0 && hi == 0.0 then -1.0 else Float.log10 top
  if logMax < 0.0 then
    let whole := logMax.abs
    if logMax - Float.ofInt (truncInt logMax) != 0.0 then base + (truncInt whole).toNat
    else base + (truncInt (whole - 1.0)).toNat
  else if logMax > 2.0 then 0
  else base

/-- A grid cell: the text it shows. -/
abbrev Cell := String

/-- Sets a cell of the grid when it exists. -/
def setCell (grid : Array (Array Cell)) (row col : Int) (text : Cell) : Array (Array Cell) :=
  if row < 0 || col < 0 then grid
  else grid.modify row.toNat fun line => line.setIfInBounds col.toNat text

/-- The largest grid a plot draws; a range that needs more rows cannot be
drawn. -/
def maxRows : Nat := 10000000

/-- Draws a series, or says why its grid cannot be made. -/
def plot (series : Array Float) (style : PlotStyle) : Except String String := Id.run do
  let data := if style.width > 0 then resample series style.width else series
  let count := if style.width > 0 then style.width else series.size
  let (lo, hi) := valueRange data
  let interval := (hi - lo).abs
  let ratio := if interval != 0.0 then Float.ofNat style.height / interval else 1.0
  let min2 := roundHalfAway (lo * ratio)
  let max2 := roundHalfAway (hi * ratio)
  let intMin := truncInt min2
  let intMax := truncInt max2
  let span := truncInt (Float.ofInt (Int.bmod (intMax - intMin) (Nat.pow 2 64))).abs
  if span < 0 || span > maxRows then return .error "runtime error: makeslice: len out of range"
  let rows := span.toNat
  let offset := if style.offset = 0 then 3 else style.offset
  let width := count + offset
  let mut grid : Array (Array Cell) := Array.replicate (rows + 1) (Array.replicate width " ")
  let precision := labelPrecision style.precision lo hi
  let labelWidth := max (fixed precision hi).length (fixed precision lo).length
  for k in [0:rows + 1] do
    let y : Int := intMin + k
    let magnitude := if rows > 0 then hi - Float.ofInt (y - intMin) * interval / Float.ofNat rows else Float.ofInt y
    let label := padLeft (labelWidth + 1) (fixed precision magnitude)
    let h : Int := if offset > label.length then offset - label.length else 0
    grid := setCell grid k h label
    grid := setCell grid k (offset - 1) "┤"
  let rowOf (v : Float) : Int := rows - truncInt (roundHalfAway (v * ratio) - Float.ofInt intMin)
  if !(data.getD 0 (0.0 / 0.0)).isNaN then
    grid := setCell grid (rows - truncInt (roundHalfAway (data.getD 0 0.0 * ratio) - min2)) (offset - 1) "┼"
  for x in [0:data.size - 1] do
    let d0 := data.getD x 0.0
    let d1 := data.getD (x + 1) 0.0
    let col : Int := x + offset
    if d0.isNaN && d1.isNaN then continue
    if d1.isNaN then
      grid := setCell grid (rowOf d0) col "╴"
      continue
    if d0.isNaN then
      grid := setCell grid (rowOf d1) col "╶"
      continue
    let y0 := rows - rowOf d0
    let y1 := rows - rowOf d1
    if y0 == y1 then grid := setCell grid (rows - y0) col "─"
    else
      if y0 > y1 then
        grid := setCell grid (rows - y1) col "╰"
        grid := setCell grid (rows - y0) col "╮"
      else
        grid := setCell grid (rows - y1) col "╭"
        grid := setCell grid (rows - y0) col "╯"
      let low := min y0 y1 + 1
      let high := max y0 y1
      for k in [0:(high - low).toNat] do
        grid := setCell grid (rows - (low + k)) col "│"
  let lines := grid.toList.map fun line =>
    let cells := line.toList
    let keep := (cells.reverse.dropWhile (· == " ")).length
    String.join (cells.take (max keep 1))
  let body := "\n".intercalate lines
  if style.caption.isEmpty then return .ok body
  let lead := String.ofList (List.replicate (offset + labelWidth) ' ')
  let centre := if style.caption.length < count then
      String.ofList (List.replicate ((count - style.caption.length) / 2) ' ')
    else ""
  return .ok (body ++ "\n" ++ lead ++ centre ++ style.caption)

end Multibody.Text
