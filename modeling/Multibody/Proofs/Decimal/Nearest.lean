import Multibody.Proofs.Decimal.Words

/-!
# Reading a quotient rounds it to the nearest double

`roundQuotient` turns an exact quotient `num / den · 2 ^ shift` into a double
with natural-number arithmetic: it brackets it between powers of two
(`quotientExponent_bounds`), counts it in units of the last bit, rounding
half to even (`roundedUnits_eq`, `divRoundEven_nearest`), and packs the
count.  The result is a nearest finite double, or infinity above them all
(`roundQuotient_nearest`).
-/

namespace Multibody.Decimal

section Integers

theorem divRoundEven_cases (n d : Nat) :
    (divRoundEven n d = n / d ∧ (2 * (n % d) < d ∨ 2 * (n % d) = d ∧ n / d % 2 = 0)) ∨
    (divRoundEven n d = n / d + 1 ∧ (d < 2 * (n % d) ∨ 2 * (n % d) = d ∧ n / d % 2 = 1)) := by
  unfold divRoundEven
  dsimp only
  split
  · right; exact ⟨rfl, .inl ‹_›⟩
  · split
    · left; exact ⟨rfl, .inl ‹_›⟩
    · split
      · left; exact ⟨rfl, .inr ⟨by omega, ‹_›⟩⟩
      · right; exact ⟨rfl, .inr ⟨by omega, by omega⟩⟩

private theorem int_div_add_mod (n d : Nat) :
    (n : Int) = d * (n / d : Nat) + (n % d : Nat) := by
  exact_mod_cast (Nat.div_add_mod n d).symm

private theorem divRoundEven_sub (n d : Nat) :
    (((divRoundEven n d : Nat) : Int) * d - n = -((n % d : Nat) : Int) ∧
      (2 * (n % d) < d ∨ 2 * (n % d) = d ∧ divRoundEven n d % 2 = 0)) ∨
    (((divRoundEven n d : Nat) : Int) * d - n = d - ((n % d : Nat) : Int) ∧
      (d < 2 * (n % d) ∨ 2 * (n % d) = d ∧ divRoundEven n d % 2 = 0)) := by
  have hn := int_div_add_mod n d
  rcases divRoundEven_cases n d with ⟨h, hc⟩ | ⟨h, hc⟩
  · left
    refine ⟨by rw [h, hn]; ring, by rw [h]; exact hc⟩
  · right
    refine ⟨by rw [h, hn, Nat.cast_add, Nat.cast_one]; ring, by rw [h]; omega⟩

theorem divRoundEven_error (n d : Nat) (hd : 0 < d) :
    2 * |((divRoundEven n d : Nat) : Int) * d - n| ≤ d ∧
    (2 * |((divRoundEven n d : Nat) : Int) * d - n| = d → divRoundEven n d % 2 = 0) := by
  have hlt := Nat.mod_lt n hd
  rcases divRoundEven_sub n d with ⟨he, hc⟩ | ⟨he, hc⟩
  · rw [he, abs_neg, abs_of_nonneg (by positivity)]
    omega
  · rw [he, abs_of_nonneg (by omega)]
    omega

private theorem mod_le_abs_mul_sub (n d : Nat) (hd : 0 < d) (k : Int) :
    ((n % d : Nat) : Int) ≤ |k * d - n| ∨ (d : Int) - (n % d : Nat) ≤ |k * d - n| := by
  have hn := int_div_add_mod n d
  have hlt : ((n % d : Nat) : Int) < d := by exact_mod_cast Nat.mod_lt n hd
  have hr : (0 : Int) ≤ ((n % d : Nat) : Int) := by positivity
  rcases le_or_gt k (n / d : Nat) with hkq | hkq
  · left
    have hm : k * d ≤ ((n / d : Nat) : Int) * d := mul_le_mul_of_nonneg_right hkq (by positivity)
    rw [abs_of_nonpos (by rw [hn]; linarith)]
    rw [hn]; linarith
  · right
    have hm : (((n / d : Nat) : Int) + 1) * d ≤ k * d :=
      mul_le_mul_of_nonneg_right (by omega) (by positivity)
    rw [abs_of_nonneg (by rw [hn]; linarith)]
    rw [hn]; linarith

theorem divRoundEven_nearest (n d : Nat) (hd : 0 < d) (k : Int) :
    |((divRoundEven n d : Nat) : Int) * d - n| ≤ |k * d - n| := by
  have hlt := Nat.mod_lt n hd
  have hk := mod_le_abs_mul_sub n d hd k
  rcases divRoundEven_sub n d with ⟨he, hc⟩ | ⟨he, hc⟩
  · rw [he, abs_neg, abs_of_nonneg (by positivity)]
    omega
  · rw [he, abs_of_nonneg (by omega)]
    omega

theorem divRoundEven_eq_of_near (n d D : Nat) (hd : 0 < d)
    (h : 2 * |(D : Int) * d - n| < d ∨ 2 * |(D : Int) * d - n| = d ∧ D % 2 = 0) :
    divRoundEven n d = D := by
  obtain ⟨hR, hReven⟩ := divRoundEven_error n d hd
  set R := divRoundEven n d
  have hd' : (0 : Int) < d := by exact_mod_cast hd
  have hDle : 2 * |(D : Int) * d - n| ≤ d := by rcases h with h | h <;> omega
  -- the two multiples are within `d` of each other, so `D` and `R` differ by at most one
  have hdiff : ((D : Int) - R) * d = ((D : Int) * d - n) - ((R : Int) * d - n) := by ring
  have hsum : |((D : Int) - R) * d| ≤ |(D : Int) * d - n| + |(R : Int) * d - n| := by
    rw [hdiff]; exact abs_sub _ _
  rcases lt_trichotomy (D : Int) R with hlt | heq | hgt
  · have hj : (d : Int) ≤ |((D : Int) - R) * d| := by
      rw [abs_mul, abs_of_pos hd', abs_of_neg (by omega)]; nlinarith
    have hx : 2 * |(D : Int) * d - n| = d := by omega
    have hy : 2 * |(R : Int) * d - n| = d := by omega
    have : (D : Int) + 1 = R := by
      rw [abs_mul, abs_of_pos hd', abs_of_neg (by omega)] at hsum hj; nlinarith
    have := hReven (by omega)
    rcases h with h | h <;> omega
  · exact_mod_cast heq.symm
  · have hj : (d : Int) ≤ |((D : Int) - R) * d| := by
      rw [abs_mul, abs_of_pos hd', abs_of_pos (by omega)]; nlinarith
    have hx : 2 * |(D : Int) * d - n| = d := by omega
    have hy : 2 * |(R : Int) * d - n| = d := by omega
    have : (R : Int) + 1 = D := by
      rw [abs_mul, abs_of_pos hd', abs_of_pos (by omega)] at hsum hj; nlinarith
    have := hReven (by omega)
    rcases h with h | h <;> omega


theorem two_abs_sub_div (n d : Nat) (hd : 0 < d) (k : Int) :
    2 * |(k : ℚ) - n / d| = ((2 * |k * d - n| : Int) : ℚ) / d := by
  have hd' : (0 : ℚ) < d := by exact_mod_cast hd
  rw [eq_div_iff hd'.ne', mul_assoc, ← abs_of_pos hd', ← abs_mul, abs_of_pos hd']
  push_cast
  congr 2
  field_simp

theorem divRoundEven_error_rat (n d : Nat) (hd : 0 < d) :
    2 * |(divRoundEven n d : ℚ) - n / d| ≤ 1 ∧
      (2 * |(divRoundEven n d : ℚ) - n / d| = 1 → divRoundEven n d % 2 = 0) := by
  have hd' : (0 : ℚ) < d := by exact_mod_cast hd
  have h := two_abs_sub_div n d hd (divRoundEven n d)
  rw [Int.cast_natCast] at h
  obtain ⟨herr, heven⟩ := divRoundEven_error n d hd
  rw [h]
  refine ⟨(div_le_one hd').mpr (by exact_mod_cast herr), fun htie => heven ?_⟩
  exact_mod_cast (div_eq_one_iff_eq hd'.ne').mp htie

theorem divRoundEven_eq_of_near_rat (n d D : Nat) (hd : 0 < d)
    (h : 2 * |(D : ℚ) - n / d| < 1 ∨ 2 * |(D : ℚ) - n / d| = 1 ∧ D % 2 = 0) :
    divRoundEven n d = D := by
  have hd' : (0 : ℚ) < d := by exact_mod_cast hd
  have hD := two_abs_sub_div n d hd D
  rw [Int.cast_natCast] at hD
  apply divRoundEven_eq_of_near n d D hd
  rw [hD] at h
  rcases h with h | ⟨h, heven⟩
  · exact .inl (by exact_mod_cast (div_lt_one hd').mp h)
  · exact .inr ⟨by exact_mod_cast (div_eq_one_iff_eq hd'.ne').mp h, heven⟩

theorem divRoundEven_nearest_rat (n d : Nat) (hd : 0 < d) (k : Int) :
    |(divRoundEven n d : ℚ) - n / d| ≤ |(k : ℚ) - n / d| := by
  have hd' : (0 : ℚ) < d := by exact_mod_cast hd
  have hR := two_abs_sub_div n d hd (divRoundEven n d)
  rw [Int.cast_natCast] at hR
  have : 2 * |(divRoundEven n d : ℚ) - n / d| ≤ 2 * |(k : ℚ) - n / d| := by
    rw [hR, two_abs_sub_div n d hd k]
    apply div_le_div_of_nonneg_right _ hd'.le
    have := divRoundEven_nearest n d hd k
    exact_mod_cast mul_le_mul_of_nonneg_left this (by norm_num : (0 : Int) ≤ 2)
  linarith

end Integers

section Stages

/-- The binary exponent `b` with `2 ^ b ≤ num / den · 2 ^ shift < 2 ^ (b + 1)`. -/
def quotientExponent (num den : Nat) (shift : Int) : Int :=
  let approx : Int := (log2 num : Int) - (log2 den : Int) + shift
  let ge (b : Int) : Bool :=
    let t := shift - b
    if t ≥ 0 then num * Nat.pow 2 t.toNat ≥ den else num ≥ den * Nat.pow 2 (-t).toNat
  if ge approx then approx else approx - 1

/-- The exponent of the last significand bit of the rounded quotient. -/
def quantumExponent (num den : Nat) (shift : Int) : Int :=
  if quotientExponent num den shift < -1022 then -1074 else quotientExponent num den shift - 52

/-- The quotient in units of the quantum, rounded to nearest with ties to even. -/
def roundedUnits (num den : Nat) (shift : Int) : Nat :=
  let t := shift - quantumExponent num den shift
  if t ≥ 0 then divRoundEven (num * Nat.pow 2 t.toNat) den
  else divRoundEven num (den * Nat.pow 2 (-t).toNat)

/-- The word of `m` quanta of `2 ^ q`, carrying into the next binade and overflowing to
infinity. -/
def packUnits (neg : Bool) (m : Nat) (q : Int) : Float :=
  if m = 0 then wordOf neg 0 0
  else
    let (m, q) := if m = Nat.pow 2 53 then (Nat.pow 2 52, q + 1) else (m, q)
    if m < Nat.pow 2 52 then wordOf neg 0 m
    else
      let field := q + 1075
      if field ≥ 2047 then wordOf neg 2047 0
      else wordOf neg field.toNat (m - Nat.pow 2 52)

theorem roundQuotient_eq (neg : Bool) (num den : Nat) (shift : Int) (hn : num ≠ 0) (hd : den ≠ 0) :
    roundQuotient neg num den shift =
      packUnits neg (roundedUnits num den shift) (quantumExponent num den shift) := by
  simp only [roundQuotient, hn, hd, or_self, if_false]
  rfl


theorem pow_le_quotient_iff (num den : Nat) (shift b : Int) (hd : 0 < den) :
    (if shift - b ≥ 0 then decide (num * Nat.pow 2 (shift - b).toNat ≥ den)
      else decide (num ≥ den * Nat.pow 2 (-(shift - b)).toNat)) = true ↔
      (2 : ℚ) ^ b ≤ num / den * 2 ^ shift := by
  have hd' : (0 : ℚ) < den := by exact_mod_cast hd
  split
  · rename_i ht
    have hp : (2 : ℚ) ^ shift = 2 ^ b * ((Nat.pow 2 (shift - b).toNat : Nat) : ℚ) := by
      rw [Nat.pow_eq, Nat.cast_pow, Nat.cast_ofNat, ← zpow_natCast, Int.toNat_of_nonneg ht,
        ← zpow_add₀ (by norm_num)]
      congr 1; ring
    have hr : (num : ℚ) / den * (2 ^ b * ((Nat.pow 2 (shift - b).toNat : Nat) : ℚ)) =
        2 ^ b * ((num * (Nat.pow 2 (shift - b).toNat) : Nat) / den) := by
      push_cast; ring
    rw [decide_eq_true_iff, hp, hr, le_mul_iff_one_le_right (by positivity), one_le_div hd',
      Nat.cast_le, ge_iff_le]
  · rename_i ht
    have hp : (2 : ℚ) ^ b = 2 ^ shift * ((Nat.pow 2 (-(shift - b)).toNat : Nat) : ℚ) := by
      rw [Nat.pow_eq, Nat.cast_pow, Nat.cast_ofNat, ← zpow_natCast, Int.toNat_of_nonneg (by omega),
        ← zpow_add₀ (by norm_num)]
      congr 1; ring
    rw [decide_eq_true_iff, hp, mul_comm ((num : ℚ) / den), mul_le_mul_iff_right₀ (by positivity),
      le_div_iff₀ hd', ← Nat.cast_mul, Nat.cast_le, mul_comm, ge_iff_le]

private theorem pow_log2_bounds (n : Nat) (hn : 0 < n) :
    (2 : ℚ) ^ (log2 n : Int) ≤ n ∧ (n : ℚ) < 2 ^ ((log2 n : Int) + 1) := by
  have hl := Nat.log2_self_le (Nat.pos_iff_ne_zero.mp hn)
  have hu : n < 2 ^ (n.log2 + 1) := Nat.lt_log2_self
  constructor
  · rw [zpow_natCast]; exact_mod_cast hl
  · rw [show ((log2 n : Int) + 1) = ((log2 n + 1 : Nat) : Int) by push_cast; ring, zpow_natCast]
    exact_mod_cast hu

private theorem quotient_near_approx (num den : Nat) (shift : Int) (hn : 0 < num) (hd : 0 < den) :
    (2 : ℚ) ^ ((log2 num : Int) - (log2 den : Int) + shift - 1) < num / den * 2 ^ shift ∧
      (num / den * 2 ^ shift : ℚ) < 2 ^ ((log2 num : Int) - (log2 den : Int) + shift + 1) := by
  obtain ⟨hn1, hn2⟩ := pow_log2_bounds num hn
  obtain ⟨hd1, hd2⟩ := pow_log2_bounds den hd
  have hd' : (0 : ℚ) < den := by exact_mod_cast hd
  have h2 : ∀ a c : Int, (2 : ℚ) ^ (a - c + shift) = 2 ^ a / 2 ^ c * 2 ^ shift := by
    intro a c; rw [zpow_add₀ (by norm_num), zpow_sub₀ (by norm_num)]
  constructor
  · rw [show (log2 num : Int) - (log2 den : Int) + shift - 1 =
        (log2 num : Int) - ((log2 den : Int) + 1) + shift by ring, h2]
    apply mul_lt_mul_of_pos_right _ (by positivity)
    calc (2 : ℚ) ^ (log2 num : Int) / 2 ^ ((log2 den : Int) + 1)
        ≤ num / 2 ^ ((log2 den : Int) + 1) := div_le_div_of_nonneg_right hn1 (by positivity)
      _ < num / den := div_lt_div_of_pos_left (by positivity) hd' hd2
  · rw [show (log2 num : Int) - (log2 den : Int) + shift + 1 =
        ((log2 num : Int) + 1) - (log2 den : Int) + shift by ring, h2]
    apply mul_lt_mul_of_pos_right _ (by positivity)
    calc (num : ℚ) / den
        ≤ num / 2 ^ (log2 den : Int) := div_le_div_of_nonneg_left (by positivity) (by positivity) hd1
      _ < 2 ^ ((log2 num : Int) + 1) / 2 ^ (log2 den : Int) :=
          div_lt_div_of_pos_right hn2 (by positivity)

theorem quotientExponent_bounds (num den : Nat) (shift : Int) (hn : 0 < num) (hd : 0 < den) :
    (2 : ℚ) ^ quotientExponent num den shift ≤ num / den * 2 ^ shift ∧
      (num / den * 2 ^ shift : ℚ) < 2 ^ (quotientExponent num den shift + 1) := by
  obtain ⟨hlo, hhi⟩ := quotient_near_approx num den shift hn hd
  unfold quotientExponent
  dsimp only
  by_cases hge : (2 : ℚ) ^ ((log2 num : Int) - (log2 den : Int) + shift) ≤ num / den * 2 ^ shift
  · rw [if_pos ((pow_le_quotient_iff num den shift _ hd).mpr hge)]
    exact ⟨hge, hhi⟩
  · rw [if_neg (mt (pow_le_quotient_iff num den shift _ hd).mp hge), sub_add_cancel]
    exact ⟨hlo.le, not_le.mp hge⟩

theorem roundedUnits_eq (num den : Nat) (shift : Int) (hd : 0 < den) :
    ∃ N D : Nat, 0 < D ∧
      (N : ℚ) / D = num / den * 2 ^ shift / 2 ^ quantumExponent num den shift ∧
      roundedUnits num den shift = divRoundEven N D := by
  unfold roundedUnits
  dsimp only
  have hsplit : (num : ℚ) / den * 2 ^ shift / 2 ^ quantumExponent num den shift =
      num / den * 2 ^ (shift - quantumExponent num den shift) := by
    rw [zpow_sub₀ (by norm_num)]; ring
  rw [hsplit]
  split
  · rename_i ht
    refine ⟨_, den, hd, ?_, rfl⟩
    rw [Nat.pow_eq, Nat.cast_mul, Nat.cast_pow, Nat.cast_ofNat, ← zpow_natCast,
      Int.toNat_of_nonneg ht]
    ring
  · rename_i ht
    refine ⟨num, _, by rw [Nat.pow_eq]; positivity, ?_, rfl⟩
    rw [Nat.pow_eq, Nat.cast_mul, Nat.cast_pow, Nat.cast_ofNat, ← zpow_natCast,
      Int.toNat_of_nonneg (by omega), zpow_neg, div_mul_eq_div_div, div_inv_eq_mul]

private theorem nat_le_of_half {m a : Nat} {y : ℚ} (hm : 2 * |(m : ℚ) - y| ≤ 1) (hy : y < a) :
    m ≤ a := by
  have : (m : ℚ) < a + 1 := by
    have := le_abs_self ((m : ℚ) - y); linarith
  exact_mod_cast (Nat.lt_succ_iff.mp (by exact_mod_cast this))

private theorem le_nat_of_half {m a : Nat} {y : ℚ} (hm : 2 * |(m : ℚ) - y| ≤ 1) (hy : (a : ℚ) ≤ y) :
    a ≤ m := by
  have : (a : ℚ) < m + 1 := by
    have := neg_abs_le ((m : ℚ) - y); linarith
  exact Nat.lt_succ_iff.mp (by exact_mod_cast this)

end Stages

section Nearest

theorem value_lt_of_mant_lt (m : Nat) (e : Int) (hm : m < 2 ^ 53) :
    (m : ℚ) * 2 ^ e < 2 ^ (e + 53) := by
  rw [zpow_add₀ (by norm_num), mul_comm ((2 : ℚ) ^ e)]
  apply mul_lt_mul_of_pos_right _ (by positivity)
  have h53 : (2 : ℚ) ^ (53 : Int) = 2 ^ (53 : Nat) := by norm_num
  rw [h53]; exact_mod_cast hm

theorem Binary.Canonical.value_le {c : Binary} (hc : c.Canonical) :
    c.value ≤ (2 ^ 53 - 1) * 2 ^ (971 : Int) := by
  obtain ⟨hm, -, he, -⟩ := hc
  unfold Binary.value
  have hm' : (c.mant : ℚ) ≤ 2 ^ 53 - 1 := by
    have : ((c.mant + 1 : Nat) : ℚ) ≤ 2 ^ 53 := by exact_mod_cast hm
    push_cast at this; linarith
  calc (c.mant : ℚ) * 2 ^ c.exp ≤ (2 ^ 53 - 1) * 2 ^ c.exp :=
        mul_le_mul_of_nonneg_right hm' (by positivity)
    _ ≤ (2 ^ 53 - 1) * 2 ^ (971 : Int) :=
        mul_le_mul_of_nonneg_left (zpow_le_zpow_right₀ (by norm_num) he) (by norm_num)

private theorem abs_sub_eq_units (x T : ℚ) (q : Int) :
    |x - T| = 2 ^ q * |x / 2 ^ q - T / 2 ^ q| := by
  have hq : (0 : ℚ) < 2 ^ q := by positivity
  rw [← abs_of_pos hq, ← abs_mul, abs_of_pos hq]
  congr 1; field_simp

theorem nearest_of_units (T : ℚ) (m : Nat) (b q : Int)
    (hq : q = if b < -1022 then -1074 else b - 52) (hbT : 2 ^ b ≤ T)
    (hnear : ∀ k : Int, |(m : ℚ) - T / 2 ^ q| ≤ |(k : ℚ) - T / 2 ^ q|) :
    ∀ c : Binary, c.Canonical → |(m : ℚ) * 2 ^ q - T| ≤ |c.value - T| := by
  intro c hc
  have hq2 : (0 : ℚ) < 2 ^ q := by positivity
  rw [abs_sub_eq_units _ T q, abs_sub_eq_units c.value T q, mul_div_cancel_right₀ _ hq2.ne']
  apply mul_le_mul_of_nonneg_left _ hq2.le
  by_cases hce : q ≤ c.exp
  · -- on the grid of the quantum: `c` counts a whole number of units
    have hk : c.value / 2 ^ q = ((c.mant * Nat.pow 2 (c.exp - q).toNat : Nat) : Int) := by
      rw [Binary.value, Nat.pow_eq]
      push_cast
      rw [← zpow_natCast, Int.toNat_of_nonneg (by omega), mul_div_assoc, ← zpow_sub₀ (by norm_num)]
    rw [hk]
    exact hnear _
  · -- below the binade: `c` is below `2 ^ b ≤ T`, and `2 ^ 52` units are nearer
    obtain ⟨hm, hlo, -, -⟩ := hc
    have hb : ¬ b < -1022 := by
      intro hb; rw [if_pos hb] at hq; omega
    rw [if_neg hb] at hq
    have hcv : c.value < 2 ^ b := by
      calc c.value < 2 ^ (c.exp + 53) := value_lt_of_mant_lt _ _ hm
        _ ≤ 2 ^ b := zpow_le_zpow_right₀ (by norm_num) (by omega)
    have h52 : (2 : ℚ) ^ b / 2 ^ q = ((Nat.pow 2 52 : Nat) : Int) := by
      rw [← zpow_sub₀ (by norm_num), hq, Nat.pow_eq]; push_cast; norm_num
    have hy : ((Nat.pow 2 52 : Nat) : Int) ≤ T / 2 ^ q := by
      rw [← h52]; exact div_le_div_of_nonneg_right hbT hq2.le
    calc |(m : ℚ) - T / 2 ^ q| ≤ |(((Nat.pow 2 52 : Nat) : Int) : ℚ) - T / 2 ^ q| := hnear _
      _ = T / 2 ^ q - 2 ^ b / 2 ^ q := by rw [abs_of_nonpos (by linarith), h52]; ring
      _ ≤ |c.value / 2 ^ q - T / 2 ^ q| := by
          rw [abs_of_nonpos (by
            have := div_lt_div_of_pos_right hcv hq2
            have := div_le_div_of_nonneg_right hbT hq2.le
            linarith)]
          have := div_lt_div_of_pos_right hcv hq2
          linarith


theorem units_range (T : ℚ) (m : Nat) (b q : Int)
    (hq : q = if b < -1022 then -1074 else b - 52) (hbT : 2 ^ b ≤ T) (hTb : T < 2 ^ (b + 1))
    (hhalf : 2 * |(m : ℚ) - T / 2 ^ q| ≤ 1) :
    (b < -1022 → q = -1074 ∧ m ≤ 2 ^ 52) ∧
      (¬ b < -1022 → q = b - 52 ∧ 2 ^ 52 ≤ m ∧ m ≤ 2 ^ 53) := by
  have hq2 : (0 : ℚ) < 2 ^ q := by positivity
  have hy : T / 2 ^ q < 2 ^ (b + 1 - q) := by
    rw [zpow_sub₀ (by norm_num)]; exact div_lt_div_of_pos_right hTb hq2
  refine ⟨fun hb => ?_, fun hb => ?_⟩
  · rw [if_pos hb] at hq
    refine ⟨hq, nat_le_of_half hhalf (lt_of_lt_of_le hy ?_)⟩
    calc (2 : ℚ) ^ (b + 1 - q) ≤ 2 ^ (52 : Int) := zpow_le_zpow_right₀ (by norm_num) (by omega)
      _ = ((2 ^ 52 : Nat) : ℚ) := by norm_num
  · rw [if_neg hb] at hq
    refine ⟨hq, le_nat_of_half hhalf ?_, nat_le_of_half hhalf ?_⟩
    · calc (((2 ^ 52 : Nat)) : ℚ) = 2 ^ b / 2 ^ q := by
            rw [← zpow_sub₀ (by norm_num), hq]; norm_num
        _ ≤ T / 2 ^ q := div_le_div_of_nonneg_right hbT hq2.le
    · calc T / 2 ^ q < 2 ^ (b + 1 - q) := hy
        _ = ((2 ^ 53 : Nat) : ℚ) := by rw [hq]; norm_num

theorem packUnits_zero (neg : Bool) (q : Int) : packUnits neg 0 q = wordOf neg 0 0 := by
  simp [packUnits]

theorem packUnits_carry (neg : Bool) (q : Int) :
    packUnits neg (2 ^ 53) q =
      if q + 1 + 1075 ≥ 2047 then wordOf neg 2047 0 else wordOf neg (q + 1 + 1075).toNat 0 := by
  unfold packUnits
  rw [if_neg (by norm_num), if_pos (by rfl)]
  dsimp only
  rw [if_neg (lt_irrefl _), Nat.sub_self]

theorem packUnits_of_lt (neg : Bool) (m : Nat) (q : Int) (h0 : m ≠ 0) (hlt : m < 2 ^ 52) :
    packUnits neg m q = wordOf neg 0 m := by
  unfold packUnits
  rw [if_neg h0, if_neg (by simp only [Nat.pow_eq]; omega)]
  dsimp only
  rw [if_pos (by simpa only [Nat.pow_eq] using hlt)]

theorem packUnits_of_le (neg : Bool) (m : Nat) (q : Int) (hlo : 2 ^ 52 ≤ m) (hhi : m < 2 ^ 53) :
    packUnits neg m q =
      if q + 1075 ≥ 2047 then wordOf neg 2047 0 else wordOf neg (q + 1075).toNat (m - 2 ^ 52) := by
  unfold packUnits
  rw [if_neg (by omega), if_neg (by simp only [Nat.pow_eq]; omega)]
  dsimp only
  rw [if_neg (by simp only [Nat.pow_eq]; omega)]
  rfl

theorem roundQuotient_nearest (neg : Bool) (num den : Nat) (shift : Int) (hn : 0 < num)
    (hd : 0 < den) :
    (∃ c : Binary, c.neg = neg ∧ c.Canonical ∧ roundQuotient neg num den shift = c.toFloat ∧
      ∀ c' : Binary, c'.Canonical →
        |c.value - num / den * 2 ^ shift| ≤ |c'.value - num / den * 2 ^ shift|) ∨
    (roundQuotient neg num den shift = wordOf neg 2047 0 ∧
      (2 ^ 53 - 1 / 2 : ℚ) * 2 ^ (971 : Int) ≤ num / den * 2 ^ shift) := by
  rw [roundQuotient_eq neg num den shift hn.ne' hd.ne']
  obtain ⟨hbT, hTb⟩ := quotientExponent_bounds num den shift hn hd
  obtain ⟨N, D, hD, hND, hm⟩ := roundedUnits_eq num den shift hd
  have hhalf := (divRoundEven_error_rat N D hD).1
  have hnear := divRoundEven_nearest_rat N D hD
  rw [← hm, hND] at hhalf hnear
  have hq : quantumExponent num den shift =
      if quotientExponent num den shift < -1022 then -1074 else quotientExponent num den shift - 52 :=
    rfl
  generalize (num : ℚ) / den * 2 ^ shift = T at *
  generalize quotientExponent num den shift = b at *
  generalize quantumExponent num den shift = q at *
  generalize roundedUnits num den shift = m at *
  have hall := nearest_of_units T m b q hq hbT hnear
  obtain ⟨hsub, hnorm⟩ := units_range T m b q hq hbT hTb hhalf
  have hq2 : (0 : ℚ) < 2 ^ q := by positivity
  -- a double of value `m · 2 ^ q` is as near as any
  have hpick : ∀ c : Binary, c.neg = neg → c.Canonical → c.value = m * 2 ^ q →
      packUnits neg m q = c.toFloat →
      (∃ c : Binary, c.neg = neg ∧ c.Canonical ∧ packUnits neg m q = c.toFloat ∧
        ∀ c' : Binary, c'.Canonical → |c.value - T| ≤ |c'.value - T|) :=
    fun c hneg hc hv hw => ⟨c, hneg, hc, hw, fun c' hc' => hv ▸ hall c' hc'⟩
  have hTm : ((m : ℚ) - 1 / 2) * 2 ^ q ≤ T := by
    have h := le_abs_self ((m : ℚ) - T / 2 ^ q)
    have h' : (m : ℚ) - 1 / 2 ≤ T / 2 ^ q := by linarith
    calc ((m : ℚ) - 1 / 2) * 2 ^ q ≤ T / 2 ^ q * 2 ^ q := mul_le_mul_of_nonneg_right h' hq2.le
      _ = T := div_mul_cancel₀ T hq2.ne'
  by_cases h0 : m = 0
  · -- nothing left after rounding: zero
    left
    refine hpick ⟨neg, 0, -1074⟩ rfl (by unfold Binary.Canonical; dsimp only; omega)
      (by simp [Binary.value, h0]) ?_
    rw [h0, packUnits_zero]
    simp [Binary.toFloat]
  by_cases hc : m = 2 ^ 53
  · -- the count carries into the next binade
    have hb : ¬ b < -1022 := fun hb => by have := (hsub hb).2; omega
    obtain ⟨hqb, -, -⟩ := hnorm hb
    rw [hc, packUnits_carry]
    split
    · rename_i hf
      right
      refine ⟨rfl, ?_⟩
      calc (2 ^ 53 - 1 / 2) * (2 : ℚ) ^ (971 : Int) ≤ (2 ^ 53 - 1 / 2) * 2 ^ q :=
            mul_le_mul_of_nonneg_left (zpow_le_zpow_right₀ (by norm_num) (by omega)) (by norm_num)
        _ ≤ T := by rw [hc] at hTm; push_cast at hTm; exact hTm
    · rename_i hf
      left
      refine ⟨⟨neg, 2 ^ 52, q + 1⟩, rfl, by unfold Binary.Canonical; dsimp only; omega, ?_,
        fun c' hc' => ?_⟩
      · simp [Binary.toFloat]
      · have hv : Binary.value ⟨neg, 2 ^ 52, q + 1⟩ = m * 2 ^ q := by
          simp only [Binary.value, hc]
          rw [zpow_add₀ (by norm_num)]; push_cast; ring
        rw [hv]; exact hall c' hc'
  by_cases hlt : m < 2 ^ 52
  · -- a subnormal count
    have hb : b < -1022 := by
      by_contra hb; have := (hnorm hb).2.1; omega
    obtain ⟨hqs, -⟩ := hsub hb
    left
    refine hpick ⟨neg, m, -1074⟩ rfl (by unfold Binary.Canonical; dsimp only; omega)
      (by simp [Binary.value, hqs]) ?_
    rw [packUnits_of_lt neg m q h0 hlt]
    simp only [Binary.toFloat]
    rw [if_pos (by simpa only [Nat.pow_eq] using hlt)]
  -- the count is a normal significand; a subnormal quotient may have rounded up to one
  have hlo : 2 ^ 52 ≤ m := by omega
  have hhi : m < 2 ^ 53 := by
    by_cases hb : b < -1022
    · have := (hsub hb).2; omega
    · have := (hnorm hb).2.2; omega
  rw [packUnits_of_le neg m q hlo hhi]
  split
  · -- past the largest exponent: infinity
    rename_i hf
    have hb : ¬ b < -1022 := fun hb => by have := (hsub hb).1; omega
    have hqb := (hnorm hb).1
    right
    refine ⟨rfl, ?_⟩
    have h53 : (2 : ℚ) ^ (53 : Int) = 2 ^ (53 : Nat) := by norm_num
    calc (2 ^ 53 - 1 / 2) * (2 : ℚ) ^ (971 : Int) ≤ 2 ^ (53 : Int) * 2 ^ (971 : Int) := by
          apply mul_le_mul_of_nonneg_right _ (by positivity); rw [h53]; norm_num
      _ = 2 ^ (1024 : Int) := by rw [← zpow_add₀ (by norm_num)]; norm_num
      _ ≤ 2 ^ b := zpow_le_zpow_right₀ (by norm_num) (by omega)
      _ ≤ T := hbT
  · -- a normal count
    rename_i hf
    have hq' : -1074 ≤ q := by rw [hq]; split <;> omega
    left
    refine ⟨⟨neg, m, q⟩, rfl, by unfold Binary.Canonical; dsimp only; omega, ?_,
      fun c' hc' => hall c' hc'⟩
    simp only [Binary.toFloat]
    rw [if_neg (by simp only [Nat.pow_eq]; omega)]
    rfl

theorem exists_canonical_of_le (n : Nat) (h : n ≤ 2 ^ 53) :
    ∃ c : Binary, c.Canonical ∧ c.value = n := by
  rcases Nat.eq_zero_or_pos n with rfl | hpos
  · exact ⟨⟨false, 0, -1074⟩, by unfold Binary.Canonical; dsimp only; omega,
      by simp [Binary.value]⟩
  rcases h.lt_or_eq with hlt | rfl
  · -- shift the significand up into `[2 ^ 52, 2 ^ 53)`
    have hlog : n.log2 < 53 := (Nat.log2_lt hpos.ne').mpr hlt
    have hlo : 2 ^ n.log2 ≤ n := Nat.log2_self_le hpos.ne'
    have hhi : n < 2 ^ (n.log2 + 1) := Nat.lt_log2_self
    set k := 52 - n.log2 with hk
    have hm_lo : 2 ^ 52 ≤ n * 2 ^ k := by
      calc 2 ^ 52 = 2 ^ n.log2 * 2 ^ k := by rw [← Nat.pow_add]; congr 1; omega
        _ ≤ n * 2 ^ k := Nat.mul_le_mul_right _ hlo
    have hm_hi : n * 2 ^ k < 2 ^ 53 := by
      calc n * 2 ^ k < 2 ^ (n.log2 + 1) * 2 ^ k := Nat.mul_lt_mul_of_pos_right hhi (by positivity)
        _ = 2 ^ 53 := by rw [← Nat.pow_add]; congr 1; omega
    refine ⟨⟨false, n * 2 ^ k, -(k : Int)⟩, ?_, ?_⟩
    · unfold Binary.Canonical; dsimp only; omega
    · simp only [Binary.value]
      push_cast
      rw [zpow_neg, zpow_natCast, mul_assoc, mul_inv_cancel₀ (by positivity), mul_one]
  · exact ⟨⟨false, 2 ^ 52, 1⟩, by unfold Binary.Canonical; dsimp only; omega,
      by simp only [Binary.value]; norm_num⟩

theorem roundQuotient_exact (neg : Bool) (num den : Nat) (shift : Int) (hn : 0 < num)
    (hd : 0 < den) (c' : Binary) (hc' : c'.Canonical) (hv : c'.value = num / den * 2 ^ shift) :
    ∃ c : Binary, c.neg = neg ∧ c.Canonical ∧ roundQuotient neg num den shift = c.toFloat ∧
      c.value = num / den * 2 ^ shift := by
  rcases roundQuotient_nearest neg num den shift hn hd with ⟨c, hneg, hc, hw, hnear⟩ | ⟨-, hover⟩
  · refine ⟨c, hneg, hc, hw, ?_⟩
    have h := hnear c' hc'
    rw [hv, sub_self, abs_zero] at h
    exact sub_eq_zero.mp (abs_nonpos_iff.mp h)
  · -- no canonical value reaches the overflow threshold
    have h : c'.value < c'.value :=
      calc c'.value ≤ (2 ^ 53 - 1) * 2 ^ (971 : Int) := hc'.value_le
        _ < (2 ^ 53 - 1 / 2) * 2 ^ (971 : Int) :=
            mul_lt_mul_of_pos_right (by norm_num) (by positivity)
        _ ≤ num / den * 2 ^ shift := hover
        _ = c'.value := hv.symm
    exact absurd h (lt_irrefl _)

end Nearest

end Multibody.Decimal
