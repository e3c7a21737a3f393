import Mathlib
import Multibody.Proofs.Decimal.Nearest
import Multibody.Proofs.Decimal.ReadBack

/-!
# Numbers through their text and back

An integer up to `2 ^ 53` in magnitude reads back to itself
(`truncInt_readFloat_intText`).  A double printed with six decimals reads
back as `sixPlaces x`, rounded half to even at the sixth decimal
(`readFloat_fixed_six`), which prints to the same text
(`fixed_six_sixPlaces`), so keeping is idempotent (`sixPlaces_sixPlaces`).
The six-decimal facts rest on `roundQuotient_nearest`.
-/

namespace Multibody.Decimal

section ScaledRound

theorem scaledRound_error (b : Binary) (places : Nat) :
    2 * |(scaledRound b places : ℚ) - b.value * 10 ^ places| ≤ 1 ∧
      (2 * |(scaledRound b places : ℚ) - b.value * 10 ^ places| = 1 →
        scaledRound b places % 2 = 0) := by
  unfold scaledRound Binary.value
  split
  · -- a non-negative exponent: the product is exact
    rename_i he
    have hexact : ((b.mant * Nat.pow 2 b.exp.toNat * Nat.pow 10 places : Nat) : ℚ) =
        b.mant * 2 ^ b.exp * 10 ^ places := by
      push_cast [Nat.pow_eq]
      rw [← zpow_natCast, Int.toNat_of_nonneg he]
    rw [hexact, sub_self, abs_zero, mul_zero]
    exact ⟨by norm_num, fun h => absurd h (by norm_num)⟩
  · -- a negative exponent: the quotient by `2 ^ -exp` is rounded
    rename_i he
    have hquot : (b.mant : ℚ) * 2 ^ b.exp * 10 ^ places =
        ((b.mant * Nat.pow 10 places : Nat) : ℚ) / ((Nat.pow 2 (-b.exp).toNat : Nat) : ℚ) := by
      push_cast [Nat.pow_eq]
      rw [← zpow_natCast (2 : ℚ), Int.toNat_of_nonneg (by omega), zpow_neg, div_inv_eq_mul]
      ring
    rw [hquot]
    exact divRoundEven_error_rat _ _ (by simp only [Nat.pow_eq]; positivity)

theorem scaledRound_eq_of_near (b : Binary) (places D : Nat)
    (h : 2 * |(D : ℚ) - b.value * 10 ^ places| < 1 ∨
      2 * |(D : ℚ) - b.value * 10 ^ places| = 1 ∧ D % 2 = 0) :
    scaledRound b places = D := by
  obtain ⟨herr, -⟩ := scaledRound_error b places
  have hint : ∀ z : Int, 2 * |(z : ℚ)| ≤ 2 → |z| ≤ 1 := fun z hz => by
    have : |(z : ℚ)| ≤ 1 := by linarith
    exact_mod_cast this
  unfold scaledRound
  split
  · -- the exact product is an integer, so only `D` itself is that near
    rename_i he
    have hexact : ((b.mant * Nat.pow 2 b.exp.toNat * Nat.pow 10 places : Nat) : ℚ) =
        b.value * 10 ^ places := by
      unfold Binary.value
      push_cast [Nat.pow_eq]
      rw [← zpow_natCast, Int.toNat_of_nonneg he]
    set N := b.mant * Nat.pow 2 b.exp.toNat * Nat.pow 10 places
    have hDN : 2 * |((D - N : Int) : ℚ)| < 2 := by
      push_cast
      rw [← hexact] at h
      rcases h with h | ⟨h, -⟩ <;> linarith
    have := hint (D - N) hDN.le
    have h2 : |(D : Int) - N| ≠ 1 := fun h1 => by
      have : 2 * |((D - N : Int) : ℚ)| = 2 := by rw [← Int.cast_abs, h1]; norm_num
      linarith
    have h0 : |(D : Int) - N| = 0 := by have := abs_nonneg ((D : Int) - N); omega
    have := abs_eq_zero.mp h0
    omega
  · rename_i he
    apply divRoundEven_eq_of_near_rat _ _ _ (by simp only [Nat.pow_eq]; positivity)
    have hquot : b.value * 10 ^ places =
        ((b.mant * Nat.pow 10 places : Nat) : ℚ) / ((Nat.pow 2 (-b.exp).toNat : Nat) : ℚ) := by
      unfold Binary.value
      push_cast [Nat.pow_eq]
      rw [← zpow_natCast (2 : ℚ), Int.toNat_of_nonneg (by omega), zpow_neg, div_inv_eq_mul]
      ring
    rwa [← hquot]

end ScaledRound

section Reading

theorem ofDecimal_of_size (neg : Bool) (digits : Nat) (exp10 : Int) (h0 : 0 < digits)
    (hhi : (digitCount digits : Int) + exp10 ≤ 310)
    (hlo : -330 ≤ (digitCount digits : Int) + exp10) :
    ofDecimal neg digits exp10 =
      if exp10 ≥ 0 then roundQuotient neg (digits * 10 ^ exp10.toNat) 1 0
      else roundQuotient neg digits (10 ^ (-exp10).toNat) 0 := by
  unfold ofDecimal
  rw [if_neg h0.ne']
  dsimp only
  rw [if_neg (not_lt.mpr hhi), if_neg (not_lt.mpr hlo)]
  simp only [Nat.pow_eq]

theorem truncMag_of_value {c : Binary} {n : Nat} (hv : c.value = n) : c.truncMag = n := by
  unfold Binary.truncMag
  unfold Binary.value at hv
  split
  · rename_i he
    have : ((c.mant * Nat.pow 2 c.exp.toNat : Nat) : ℚ) = n := by
      push_cast [Nat.pow_eq]
      rw [← zpow_natCast, Int.toNat_of_nonneg he, hv]
    exact_mod_cast this
  · -- the significand is `n` shifted up by the negated exponent
    rename_i he
    have hk : (2 : ℚ) ^ c.exp = ((2 ^ (-c.exp).toNat : Nat) : ℚ)⁻¹ := by
      push_cast
      rw [← zpow_natCast, Int.toNat_of_nonneg (by omega), zpow_neg, inv_inv]
    have hm : c.mant = n * 2 ^ (-c.exp).toNat := by
      have hpos : (0 : ℚ) < ((2 ^ (-c.exp).toNat : Nat) : ℚ) := by positivity
      rw [hk, ← div_eq_mul_inv, div_eq_iff hpos.ne'] at hv
      exact_mod_cast hv
    rw [Nat.pow_eq, hm, Nat.mul_div_cancel _ (by positivity)]

theorem truncInt_toFloat {c : Binary} (hc : c.Canonical) {n : Nat} (hv : c.value = n)
    (hn : n ≤ 2 ^ 53) : truncInt c.toFloat = if c.neg then -(n : Int) else n := by
  unfold truncInt
  rw [ofFloat?_toFloat hc]
  dsimp only
  rw [truncMag_of_value hv, if_pos (by split <;> omega)]

theorem truncInt_readFloat_intText (i : Int) (h : i.natAbs ≤ 2 ^ 53) :
    ∃ y, readFloat (toString i) = .ok y ∧ truncInt y = i := by
  rw [readFloat_intText]
  dsimp only
  rcases Nat.eq_zero_or_pos i.natAbs with h0 | hpos
  · -- zero reads as the positive zero word
    have hi : i = 0 := Int.natAbs_eq_zero.mp h0
    subst hi
    have hc : Binary.Canonical ⟨false, 0, -1074⟩ := by unfold Binary.Canonical; dsimp only; omega
    have hzero : ofDecimal false 0 0 = Binary.toFloat ⟨false, 0, -1074⟩ := by
      simp [ofDecimal, Binary.toFloat]
    refine ⟨Binary.toFloat ⟨false, 0, -1074⟩, ?_, ?_⟩
    · rw [show decide ((0 : Int) < 0) = false from rfl, Int.natAbs_zero, hzero,
        isInf_eq_false_of_ofFloat? (ofFloat?_toFloat hc)]
      rfl
    · rw [truncInt_toFloat hc (n := 0) (by simp [Binary.value]) (by norm_num)]
      rfl
  · -- a positive magnitude has at most sixteen digits and is exact
    have hdig : digitCount i.natAbs ≤ 16 :=
      (Nat.length_toDigits_le_iff (by norm_num) (by norm_num)).mpr (by omega)
    obtain ⟨c', hc', hv'⟩ := exists_canonical_of_le i.natAbs h
    obtain ⟨c, hneg, hc, hw, hv⟩ := roundQuotient_exact (decide (i < 0)) (i.natAbs * 10 ^ 0) 1 0
      (by simpa using hpos) one_pos c' hc' (by simp [hv'])
    rw [ofDecimal_of_size _ _ _ hpos (by omega) (by omega), if_pos le_rfl, Int.toNat_zero, hw,
      isInf_eq_false_of_ofFloat? (ofFloat?_toFloat hc)]
    refine ⟨c.toFloat, rfl, ?_⟩
    rw [truncInt_toFloat hc (n := i.natAbs) (by simpa using hv) h, hneg]
    by_cases hi : i < 0
    · rw [decide_eq_true hi, if_pos rfl]; omega
    · rw [decide_eq_false hi, if_neg (by decide)]; omega

end Reading

section SixPlaces

/-- What six decimals keep of a double: its magnitude rounded half to even at the
sixth decimal, read back as the nearest double with the double's sign.  NaN and
the infinities are kept as they are. -/
def sixPlaces (x : Float) : Float :=
  match Binary.ofFloat? x with
  | none => x
  | some b => ofDecimal b.neg (scaledRound b 6) (-6)

theorem sixPlaces_of_ofFloat?_none {x : Float} (h : Binary.ofFloat? x = none) :
    sixPlaces x = x := by
  simp [sixPlaces, h]

theorem sixPlaces_of_ofFloat? {x : Float} {b : Binary} (h : Binary.ofFloat? x = some b) :
    sixPlaces x = ofDecimal b.neg (scaledRound b 6) (-6) := by
  simp [sixPlaces, h]

private theorem digitCount_scaledRound_six {b : Binary} (hb : b.Canonical) :
    digitCount (scaledRound b 6) ≤ 315 := by
  have herr := (scaledRound_error b 6).1
  have hle := hb.value_le
  have h971 : (2 : ℚ) ^ (971 : Int) = 2 ^ (971 : Nat) := by norm_num
  have hD : (scaledRound b 6 : ℚ) ≤ b.value * 10 ^ 6 + 1 / 2 := by
    have := le_abs_self ((scaledRound b 6 : ℚ) - b.value * 10 ^ 6); linarith
  -- the largest finite double has 309 digits before the point
  have htop : (9007199254740991 : ℚ) * 2 ^ 971 * 10 ^ 6 + 1 < 10 ^ 315 := by
    have h : 9007199254740991 * 2 ^ 971 * 10 ^ 6 + 1 < 10 ^ 315 := by decide +kernel
    exact_mod_cast h
  have h53 : (2 : ℚ) ^ 53 - 1 = 9007199254740991 := by norm_num
  have : (scaledRound b 6 : ℚ) < 10 ^ 315 := by
    rw [h971] at hle
    calc (scaledRound b 6 : ℚ) ≤ b.value * 10 ^ 6 + 1 / 2 := hD
      _ ≤ (2 ^ 53 - 1) * 2 ^ 971 * 10 ^ 6 + 1 / 2 := by gcongr
      _ < 9007199254740991 * 2 ^ 971 * 10 ^ 6 + 1 := by
          rw [h53]; exact add_lt_add_right (by norm_num) _
      _ < 10 ^ 315 := htop
  exact (Nat.length_toDigits_le_iff (by decide) (by decide)).mpr (by exact_mod_cast this)

private theorem abs_sub_mul_pow_ten (D : Nat) (v : ℚ) (places : Nat) :
    |(D : ℚ) - v * 10 ^ places| = 10 ^ places * |v - D / 10 ^ places| := by
  rw [← abs_of_pos (by positivity : (0 : ℚ) < 10 ^ places), ← abs_mul,
    abs_of_pos (by positivity : (0 : ℚ) < 10 ^ places), ← abs_neg]
  congr 1
  field_simp
  ring

theorem sixPlaces_eq_toFloat {x : Float} {b : Binary} (hb : Binary.ofFloat? x = some b) :
    ∃ c : Binary, c.Canonical ∧ c.neg = b.neg ∧ sixPlaces x = c.toFloat ∧
      scaledRound c 6 = scaledRound b 6 := by
  have hbc := canonical_of_ofFloat? hb
  rw [sixPlaces_of_ofFloat? hb]
  obtain ⟨herr, htie⟩ := scaledRound_error b 6
  set D := scaledRound b 6 with hDdef
  rcases Nat.eq_zero_or_pos D with hD | hD
  · -- the magnitude rounds to zero: a zero of the same sign
    refine ⟨⟨b.neg, 0, -1074⟩, by unfold Binary.Canonical; dsimp only; omega, rfl, ?_, ?_⟩
    · simp [ofDecimal, hD, Binary.toFloat]
    · rw [hD]; exact scaledRound_eq_of_near _ 6 0 (.inl (by simp [Binary.value]))
  have hdig : digitCount D ≤ 315 := digitCount_scaledRound_six hbc
  have hdig1 : 1 ≤ digitCount D := Nat.length_toDigits_pos
  rw [ofDecimal_of_size _ _ _ hD (by omega) (by omega), if_neg (by norm_num),
    show (-(-6 : Int)).toNat = 6 from rfl]
  have hT : ((D : ℚ) / ((10 ^ 6 : Nat) : ℚ) * 2 ^ (0 : Int)) = D / 10 ^ 6 := by push_cast; ring
  rcases roundQuotient_nearest b.neg D (10 ^ 6) 0 hD (by positivity) with
    ⟨c, hneg, hc, hw, hnear⟩ | ⟨-, hover⟩
  · -- the kept double is at least as near to the decimal as `b`, so it rounds there too
    refine ⟨c, hc, hneg, hw, scaledRound_eq_of_near c 6 D ?_⟩
    have h := hnear b hbc
    rw [hT] at h
    have hc6 := abs_sub_mul_pow_ten D c.value 6
    have hb6 := abs_sub_mul_pow_ten D b.value 6
    have hle : 2 * |(D : ℚ) - c.value * 10 ^ 6| ≤ 2 * |(D : ℚ) - b.value * 10 ^ 6| := by
      rw [hc6, hb6]; gcongr
    rcases hle.lt_or_eq with hlt | heq
    · exact .inl (lt_of_lt_of_le hlt herr)
    · rcases (heq ▸ herr).lt_or_eq with hlt | h1
      · exact .inl hlt
      · exact .inr ⟨h1, htie (heq ▸ h1)⟩
  · -- the decimal is within half a millionth of a finite double, far below overflow
    exfalso
    rw [hT] at hover
    have hle := hbc.value_le
    have hP : (1 : ℚ) ≤ 2 ^ (971 : Int) := one_le_zpow₀ (by norm_num) (by norm_num)
    have := le_abs_self ((D : ℚ) - b.value * 10 ^ 6)
    generalize (2 : ℚ) ^ (971 : Int) = P at hover hle hP
    linarith

theorem readFloat_fixed_six (x : Float) : readFloat (fixed 6 x) = .ok (sixPlaces x) := by
  cases hb : Binary.ofFloat? x with
  | none => rw [readFloat_fixed_of_ofFloat?_none hb, sixPlaces_of_ofFloat?_none hb]
  | some b =>
    obtain ⟨c, hc, -, hkeep, -⟩ := sixPlaces_eq_toFloat hb
    have hfin := isInf_eq_false_of_ofFloat? (ofFloat?_toFloat hc)
    rw [readFloat_fixed hb (by norm_num), ← neg_of_ofFloat? hb]
    dsimp only
    rw [show -((6 : Nat) : Int) = -6 from rfl, ← sixPlaces_of_ofFloat? hb, hkeep, hfin]
    rfl

theorem fixed_six_sixPlaces (x : Float) : fixed 6 (sixPlaces x) = fixed 6 x := by
  cases hb : Binary.ofFloat? x with
  | none => rw [sixPlaces_of_ofFloat?_none hb]
  | some b =>
    obtain ⟨c, hc, hneg, hkeep, hD⟩ := sixPlaces_eq_toFloat hb
    rw [hkeep]
    unfold fixed
    rw [ofFloat?_toFloat hc, hb]
    simp only [hD, signText, signOf_toFloat hc, hneg, neg_of_ofFloat? hb]

theorem sixPlaces_sixPlaces (x : Float) : sixPlaces (sixPlaces x) = sixPlaces x := by
  have h := readFloat_fixed_six (sixPlaces x)
  rw [fixed_six_sixPlaces, readFloat_fixed_six] at h
  exact (Except.ok.inj h).symm

end SixPlaces

end Multibody.Decimal
