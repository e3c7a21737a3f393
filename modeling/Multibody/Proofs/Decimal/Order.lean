import Mathlib
import Multibody.Proofs.Decimal.Words

/-!
# The order of doubles

Doubles compare as the logical model of `Float` says, on unpacked doubles:
NaN is below, above and equal to nothing, the two zeros are equal, and the
other doubles are ordered by sign, then exponent and significand.  Every
double gets a key (`rank`) in a linear order such that away from NaN `<` on
doubles is `<` on keys (`lt_iff_rank_lt`).  A search or a sort over doubles
then reasons in that linear order, once NaN is set apart
(`not_lt_of_isNaN_left`, `not_lt_of_isNaN_right`); positive infinity has the
greatest key (`rank_le_infinity`).
-/

namespace Multibody.Decimal

open Float.Model Float.Model.UnpackedFloat

/-- The key of an unpacked double: the class of its value first (negative
infinity, negative, zero, positive, positive infinity), then exponent and
significand, mirrored below zero.  NaN shares the key of zero; no comparison
reads it. -/
def rankOfUnpacked : UnpackedFloat → ℤ ×ₗ ℤ ×ₗ ℤ
  | .infinity .negative => toLex (-2, toLex (0, 0))
  | .finite .negative m e _ => toLex (-1, toLex (-e, -(m : ℤ)))
  | .zero _ => toLex (0, toLex (0, 0))
  | .notANumber => toLex (0, toLex (0, 0))
  | .finite .positive m e _ => toLex (1, toLex (e, m))
  | .infinity .positive => toLex (2, toLex (0, 0))

/-- The key of a double in the order of doubles. -/
def rank (x : Float) : ℤ ×ₗ ℤ ×ₗ ℤ := rankOfUnpacked x.toModel.unpack

theorem unpacked_lt_iff {a b : UnpackedFloat} (ha : a ≠ .notANumber) (hb : b ≠ .notANumber) :
    a.lt b = true ↔ rankOfUnpacked a < rankOfUnpacked b := by
  have hsign : compare Sign.negative Sign.positive = .lt := rfl
  -- five kinds of value on each side; within one sign, exponent before significand
  rcases a with (_ | _) | _ | (_ | _) | (_ | _) <;> rcases b with (_ | _) | _ | (_ | _) | (_ | _) <;>
    simp_all [UnpackedFloat.lt, UnpackedFloat.compare, rankOfUnpacked, Prod.Lex.toLex_lt_toLex,
      Ordering.then_eq_lt, Ordering.then_eq_gt, Ordering.swap_eq_lt, compare_lt_iff_lt,
      compare_gt_iff_gt]

theorem lt_iff_unpacked (x y : Float) : x < y ↔ x.toModel.unpack.lt y.toModel.unpack = true := by
  show Float.lt x y = true ↔ _
  simp [Float.lt]
  rfl

theorem unpack_ne_notANumber {x : Float} (hx : isNaN x = false) : x.toModel.unpack ≠ .notANumber := by
  rw [Ne, unpack_eq_notANumber_iff, hx]
  decide

theorem lt_iff_rank_lt {x y : Float} (hx : isNaN x = false) (hy : isNaN y = false) :
    x < y ↔ rank x < rank y := by
  rw [lt_iff_unpacked]
  exact unpacked_lt_iff (unpack_ne_notANumber hx) (unpack_ne_notANumber hy)

theorem not_lt_iff_rank_le {x y : Float} (hx : isNaN x = false) (hy : isNaN y = false) :
    ¬ x < y ↔ rank y ≤ rank x := by
  rw [lt_iff_rank_lt hx hy, not_lt]

theorem not_lt_of_isNaN_left {x : Float} (y : Float) (hx : isNaN x = true) : ¬ x < y := by
  rw [lt_iff_unpacked, (unpack_eq_notANumber_iff x).mpr hx]
  simp [UnpackedFloat.lt, UnpackedFloat.compare]

theorem not_lt_of_isNaN_right (x : Float) {y : Float} (hy : isNaN y = true) : ¬ x < y := by
  rw [lt_iff_unpacked, (unpack_eq_notANumber_iff y).mpr hy]
  cases x.toModel.unpack <;> simp [UnpackedFloat.lt, UnpackedFloat.compare]

theorem isNaN_eq_false_of_lt {x y : Float} (h : x < y) : isNaN x = false ∧ isNaN y = false := by
  constructor
  · cases hx : isNaN x
    · rfl
    · exact absurd h (not_lt_of_isNaN_left y hx)
  · cases hy : isNaN y
    · rfl
    · exact absurd h (not_lt_of_isNaN_right x hy)

theorem not_lt_of_lt {x y : Float} (h : x < y) : ¬ y < x := by
  obtain ⟨hx, hy⟩ := isNaN_eq_false_of_lt h
  rw [not_lt_iff_rank_le hy hx]
  exact ((lt_iff_rank_lt hx hy).mp h).le

theorem unpack_infinity : (1.0 / 0.0 : Float).toModel.unpack = .infinity .positive := rfl

theorem isNaN_infinity : isNaN (1.0 / 0.0) = false := by
  cases h : isNaN (1.0 / 0.0)
  · rfl
  · have hnan := (unpack_eq_notANumber_iff _).mpr h
    rw [unpack_infinity] at hnan
    cases hnan

theorem rank_le_infinity (x : Float) : rank x ≤ rank (1.0 / 0.0) := by
  rw [rank, rank, unpack_infinity]
  rcases x.toModel.unpack with (_ | _) | _ | (_ | _) | (_ | _) <;>
    simp [rankOfUnpacked, Prod.Lex.toLex_le_toLex]

end Multibody.Decimal
