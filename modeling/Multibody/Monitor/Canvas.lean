import Multibody.Body.Snapshot
import Multibody.Decimal.Binary64

/-!
# A side view of the world in characters

A grid of 70 by 20 characters looking along y, heights halved, points
mapped by scaling and truncating in 64-bit integers.  A body is the chain of
its link positions joined by `|`, its root `+` and its tip `O`; the first
body's tips leave a trail of 40 cells.  Cells outside the grid are skipped.
-/

namespace Multibody.Monitor

/-- The canvas width in cells. -/
def canvasWidth : Nat := 70

/-- The canvas height in cells. -/
def canvasHeight : Nat := 20

/-- The longest trail kept. -/
def trailLength : Nat := 40

/-- A cell position: column and row. -/
structure Spot where
  x : Int
  y : Int
  deriving Inhabited, BEq

/-- An integer wrapped to 64 bits, as machine arithmetic gives. -/
def wrap64 (i : Int) : Int := (Int64.ofInt i).toInt

/-- The grid, its scale in cells per meter, its origin and the trail. -/
structure Canvas where
  cells : Array (Array Char) := Array.replicate canvasHeight (Array.replicate canvasWidth (Char.ofNat 0))
  scale : Float
  ox : Int := 35
  oz : Int := 6
  trail : Array Spot := #[]
  deriving Inhabited

/-- The magnitude of a 64-bit integer; the least one is its own magnitude. -/
def wrapAbs (v : Int) : Int := if v < 0 then wrap64 (-v) else v

/-- What a line drawn toward `target` keeps fixed: the distances to cover
along each axis and the unit step along each, in 64-bit integers. -/
structure LineStride where
  target : Spot
  dx : Int
  dy : Int
  sx : Int
  sy : Int

/-- Where a line walk stands, and its error term. -/
structure LineWalk where
  x : Int
  y : Int
  err : Int

/-- The cell a line walk stands on. -/
def LineWalk.spot (w : LineWalk) : Spot := ⟨w.x, w.y⟩

namespace LineStride

/-- The stride of the line from `a` to `b`. -/
def ofEnds (a b : Spot) : LineStride :=
  { target := b,
    dx := wrapAbs (wrap64 (b.x - a.x)),
    dy := wrapAbs (wrap64 (b.y - a.y)),
    sx := if a.x > b.x then -1 else 1,
    sy := if a.y > b.y then -1 else 1 }

/-- The walk at the line's first end. -/
def start (s : LineStride) (a : Spot) : LineWalk := ⟨a.x, a.y, wrap64 (s.dx - s.dy)⟩

/-- One step of the walk: the doubled error term decides whether it moves
along x, along y or both, every sum wrapping to 64 bits. -/
def step (s : LineStride) (w : LineWalk) : LineWalk :=
  let e2 := wrap64 (2 * w.err)
  let w := if e2 > wrap64 (-s.dy) then { w with err := wrap64 (w.err - s.dy), x := wrap64 (w.x + s.sx) } else w
  if e2 < s.dx then { w with err := wrap64 (w.err + s.dx), y := wrap64 (w.y + s.sy) } else w

/-- Whether the walk stands on the line's far end. -/
def arrived (s : LineStride) (w : LineWalk) : Bool := w.x == s.target.x && w.y == s.target.y

end LineStride

namespace Canvas

/-- A blank grid. -/
def clear (c : Canvas) : Canvas :=
  { c with cells := Array.replicate canvasHeight (Array.replicate canvasWidth ' ') }

/-- Sets a cell when it lies on the grid. -/
def set (c : Canvas) (p : Spot) (ch : Char) : Canvas :=
  if 0 ≤ p.x && p.x < canvasWidth && 0 ≤ p.y && p.y < canvasHeight then
    { c with cells := c.cells.modify p.y.toNat fun row => row.setIfInBounds p.x.toNat ch }
  else c

/-- Setting a cell keeps the number of rows. -/
theorem set_cells_size (c : Canvas) (p : Spot) (ch : Char) : (c.set p ch).cells.size = c.cells.size := by
  unfold set
  split
  · simp only [Array.size_modify]
  · rfl

/-- Sets the cells a line walk stands on, up to its far end; `fuel` bounds
the steps. -/
def walkLine (s : LineStride) (ch : Char) : Nat → Canvas → LineWalk → Canvas
  | 0, c, _ => c
  | fuel + 1, c, w =>
    let c := c.set w.spot ch
    if s.arrived w then c else walkLine s ch fuel c (s.step w)

/-- Draws a line of one character from `a` to `b`: each step moves one cell
toward `b`, so the steps of both axes together bound the walk. -/
def line (c : Canvas) (a b : Spot) (ch : Char) : Canvas :=
  let s := LineStride.ofEnds a b
  walkLine s ch (s.dx.natAbs + s.dy.natAbs + 1) c (s.start a)

/-- The cell a point of the world falls on. -/
def project (c : Canvas) (p : Vec3) : Spot :=
  { x := wrap64 (c.ox + Decimal.truncInt (p.x * c.scale)),
    y := wrap64 (c.oz - Decimal.truncInt (p.z * c.scale / 2.0)) }

/-- Draws a body's snapshot; `traced` adds its tip to the trail. -/
def drawBody (c : Canvas) (s : Snapshot) (traced : Bool) : Canvas := Id.run do
  let pts : Array Spot :=
    (if s.links.isEmpty then #[c.project s.root.position] else #[]) ++ s.links.map fun l => c.project l.position
  let mut c := c
  for i in [1:pts.size] do
    c := c.line (pts.getD (i - 1) default) (pts.getD i default) '|'
  c := c.set (pts.getD 0 default) '+'
  let tip := pts.getD (pts.size - 1) default
  if traced then
    let trail := c.trail.push tip
    c := { c with trail := if trail.size > trailLength then trail.extract 1 trail.size else trail }
  return c.set tip 'O'

/-- An index held inside `[0, n)`. -/
def clampIndex (v : Int) (n : Nat) : Nat :=
  if v < 0 then 0 else if v ≥ n then n - 1 else v.toNat

/-- Draws the trail in the blank cells. -/
def drawTrail (c : Canvas) : Canvas := Id.run do
  let mut c := c
  let half := c.trail.size / 2
  for i in [0:c.trail.size] do
    let p := c.trail.getD i default
    let under := (c.cells.getD (clampIndex p.y canvasHeight) #[]).getD (clampIndex p.x canvasWidth) ' '
    if under != ' ' then continue
    c := c.set p (if i < half then '.' else 'o')
  return c

/-- The grid as text, a line per row. -/
def render (c : Canvas) : String :=
  String.join (c.cells.toList.map fun row => String.ofList row.toList ++ "\n")

end Canvas

end Multibody.Monitor
