import Multibody.Decimal.Binary64

/-!
# Grid search

Candidate parameter sets are the points of a grid: the cartesian product of
one range of values per parameter name, the first name varying slowest.  A
point maps names to values; a name given twice keeps its later value.
Scores rank the points from lowest to highest, points without a score (NaN)
left out and ties kept in point order.
-/

namespace Multibody.Tuning

/-- A grid point: parameter values by name, each name once. -/
abbrev Point := List (String × Float)

/-- The point with a parameter set, replacing an earlier value. -/
def Point.set (p : Point) (name : String) (v : Float) : Point :=
  if p.any (·.1 == name) then p.map fun (n, x) => if n == name then (n, v) else (n, x)
  else p ++ [(name, v)]

/-- The points extended by one more parameter: each point once per value of
its range, in the range's order. -/
def extend (pts : List Point) (name : String) (range : List Float) : List Point :=
  pts.flatMap fun p => range.map fun v => p.set name v

/-- The points of a grid: names paired with ranges in order, the first name
varying slowest; names beyond the last range are ignored. -/
def points (names : List String) (ranges : List (List Float)) : List Point :=
  (names.zip ranges).foldl (fun pts nr => extend pts nr.1 nr.2) [[]]

/-- The indices of the scored points, lowest score first, ties in index
order. -/
def ranked (scores : List Float) : List Nat :=
  let scored := ((List.range scores.length).zip scores).filter fun (_, s) => !Decimal.isNaN s
  (scored.mergeSort fun a b => !(b.2 < a.2)).map (·.1)

/-- The index of the lowest score, the first one on ties; none when no
point has a score. -/
def best? (scores : List Float) : Option Nat :=
  ((List.range scores.length).zip scores).foldl (fun acc (i, s) =>
    match acc with
    | none => if s < (1.0 / 0.0 : Float) then some (i, s) else none
    | some (j, t) => if s < t then some (i, s) else some (j, t)) none |>.map (·.1)

/-- What a search reports of its scored points: the first point with the
lowest score, and that score; none when no point scored below infinity. -/
def search (pts : List Point) (scores : List Float) : Option (Point × Float) :=
  (best? scores).map fun i => (pts.getD i [], scores.getD i 0.0)

end Multibody.Tuning
