import Multibody.Decimal.Binary64

/-!
# Maximum and minimum of doubles

The larger and smaller of two doubles under the IEEE rules the lab relies
on: an infinity of the right sign wins over everything, otherwise a NaN
wins, and of two zeros the maximum is `+0` and the minimum `-0`.
-/

namespace Multibody.Numeric

/-- Positive infinity. -/
def inf : Float := 1.0 / 0.0

/-- A quiet NaN. -/
def nan : Float := 0.0 / 0.0

/-- The larger of two doubles. -/
def fmax (x y : Float) : Float :=
  if (x.isInf && x > 0.0) || (y.isInf && y > 0.0) then inf
  else if x.isNaN || y.isNaN then nan
  else if x == 0.0 && y == 0.0 then (if Decimal.signOf x then y else x)
  else if x > y then x else y

/-- The smaller of two doubles. -/
def fmin (x y : Float) : Float :=
  if (x.isInf && x < 0.0) || (y.isInf && y < 0.0) then -inf
  else if x.isNaN || y.isNaN then nan
  else if x == 0.0 && y == 0.0 then (if Decimal.signOf x then x else y)
  else if x < y then x else y

end Multibody.Numeric
