import Mathlib

/-!
# Whole numbers in doubles

A whole number below `2 ^ 53` is a double exactly (`whole`): reading it
gives that double (`toModel_ofNat`, `unpack_pack_whole`), products that stay
below `2 ^ 53` lose no bit (`mul_whole`, `ofNat_mul_ofNat`), and truncating
gives the number back (`toUInt64_ofNat`), because the bits shifted out are
zeros (`roundWithAccuracy_whole`).
-/

namespace Multibody.Decimal

open Float.Model Float.Model.UnpackedFloat

/-- The shift that brings a positive number below `2 ^ 53` to 53 bits. -/
def wholeShift (n : Nat) : Nat := 52 - n.log2

/-- A whole number as the model of doubles unpacks it: zero, or the number
shifted up to a 53-bit significand with the exponent that undoes the shift. -/
def whole (n : Nat) : UnpackedFloat :=
  if h : 0 < n then
    .finite .positive (n * 2 ^ wholeShift n) (-(wholeShift n : Int)) (by positivity)
  else .zero .positive

/-! ## Shifting and rounding -/

theorem log2_mul_two_pow {n : Nat} (hn : n ≠ 0) (k : Nat) : (n * 2 ^ k).log2 = n.log2 + k := by
  have hpos : n * 2 ^ k ≠ 0 := by positivity
  rw [Nat.log2_eq_iff hpos]
  have hlo := Nat.log2_self_le hn
  have hhi := Nat.lt_log2_self (n := n)
  constructor
  · rw [Nat.pow_add]
    exact Nat.mul_le_mul_right _ hlo
  · rw [Nat.add_right_comm, Nat.pow_add]
    exact Nat.mul_lt_mul_of_pos_right hhi (by positivity)

theorem shiftRight_mul_two_pow (M k : Nat) :
    (⟨M * 2 ^ k, false, false⟩ : ExtendedMantissa) >>> k = ⟨M, false, false⟩ := by
  induction k generalizing M with
  | zero => simp [HShiftRight.hShiftRight, Nat.repeat]
  | succ k ih =>
    change ExtendedMantissa.shiftRightOne ((⟨M * 2 ^ (k + 1), false, false⟩ : ExtendedMantissa) >>> k) = _
    rw [show M * 2 ^ (k + 1) = 2 * M * 2 ^ k by ring, ih]
    simp [ExtendedMantissa.shiftRightOne]

theorem wholeShift_add_log2 {n : Nat} (hn : n ≠ 0) (hn' : n < 2 ^ 53) :
    wholeShift n + n.log2 = 52 := by
  have := (Nat.log2_lt hn).mpr hn'
  unfold wholeShift
  omega

theorem shiftToTargetExponent_of_log2 {M : Nat} {k : Nat} (hM : M.log2 = 52 + k) (e : Int)
    (he : -1074 ≤ e + k) (acc : Accuracy) :
    shiftToTargetExponent Format.binary64 M e acc =
      (ExtendedMantissa.ofMantissaAndAccuracy M acc >>> k, e + k) := by
  have ht : Format.binary64.targetExponent (totalExponent M e) = e + k := by
    simp only [Format.targetExponent, totalExponent, hM, Format.mantissaBits, Format.minExponent]
    omega
  simp only [shiftToTargetExponent, shiftToExponent, ht]
  have hk : (e + (k : Int) - e).toNat = k := by omega
  rw [hk]

theorem roundWithAccuracy_whole (s : Sign) {n : Nat} (hn : 0 < n) (hn' : n < 2 ^ 53) (k : Nat) :
    roundWithAccuracy Format.binary64 s (n * 2 ^ wholeShift n * 2 ^ k)
        (-(wholeShift n : Int) - k) .exact =
      .finite s (n * 2 ^ wholeShift n) (-(wholeShift n : Int)) (by positivity) := by
  have hsh := wholeShift_add_log2 hn.ne' hn'
  have hlog : (n * 2 ^ wholeShift n * 2 ^ k).log2 = 52 + k := by
    rw [log2_mul_two_pow (by positivity), log2_mul_two_pow hn.ne']
    omega
  have hlog0 : (n * 2 ^ wholeShift n).log2 = 52 + 0 := by
    rw [log2_mul_two_pow hn.ne']
    omega
  have hbound : -1074 ≤ -(wholeShift n : Int) := by omega
  -- the first shift drops the `k` zero bits, the second none
  have hfirst := shiftToTargetExponent_of_log2 hlog (-(wholeShift n : Int) - k) (by omega) .exact
  have hsecond := shiftToTargetExponent_of_log2 hlog0 (-(wholeShift n : Int)) (by omega) .exact
  simp only [ExtendedMantissa.ofMantissaAndAccuracy, shiftRight_mul_two_pow] at hfirst
  rw [ExtendedMantissa.ofMantissaAndAccuracy, ← Nat.mul_one (n * 2 ^ wholeShift n), ← Nat.pow_zero 2,
    shiftRight_mul_two_pow, Nat.pow_zero, Nat.mul_one] at hsecond
  rw [roundWithAccuracy, hfirst]
  simp only [ExtendedMantissa.roundedMantissa, ExtendedMantissa.accuracy,
    Accuracy.roundToNearestEven, show -(wholeShift n : Int) - k + k = -(wholeShift n : Int) by omega,
    hsecond]
  simp [hn.ne']

/-! ## The double of a whole number -/

theorem whole_of_pos {n : Nat} (hn : 0 < n) :
    whole n = .finite .positive (n * 2 ^ wholeShift n) (-(wholeShift n : Int)) (by positivity) :=
  dif_pos hn

theorem ofNat_eq_whole {n : Nat} (hn' : n < 2 ^ 53) :
    UnpackedFloat.ofNat Format.binary64 n = whole n := by
  rcases Nat.eq_zero_or_pos n with rfl | hn
  · rfl
  have hsh := wholeShift_add_log2 hn.ne' hn'
  have ht : Format.binary64.targetExponent (totalExponent n 0) = -(wholeShift n : Int) := by
    simp only [Format.targetExponent, totalExponent, Format.mantissaBits, Format.minExponent]
    omega
  have hcmp : compare (n : Int) 0 = .gt := by
    rw [Int.compare_eq_gt]
    omega
  have hshift : ((0 : Int) - -(wholeShift n : Int)).toNat = wholeShift n := by omega
  simp only [UnpackedFloat.ofNat, UnpackedFloat.ofInt, UnpackedFloat.normalize, hcmp, UnpackedFloat.round, ht, decreaseExponent,
    hshift, Nat.shiftLeft_eq, Int.toNat_natCast]
  have hround := roundWithAccuracy_whole .positive hn hn' 0
  simp only [Nat.pow_zero, Nat.mul_one, Nat.cast_zero, Int.sub_zero] at hround
  rw [whole_of_pos hn, ← hround]
  congr 1
  omega

theorem log2_add_log2_le_log2_mul {a b : Nat} (ha : a ≠ 0) (hb : b ≠ 0) :
    a.log2 + b.log2 ≤ (a * b).log2 := by
  rw [Nat.le_log2 (by positivity), Nat.pow_add]
  exact Nat.mul_le_mul (Nat.log2_self_le ha) (Nat.log2_self_le hb)

theorem mul_whole {a b : Nat} (hab : a * b < 2 ^ 53) :
    UnpackedFloat.mul Format.binary64 (whole a) (whole b) = whole (a * b) := by
  rcases Nat.eq_zero_or_pos a with rfl | ha
  · rcases Nat.eq_zero_or_pos b with rfl | hb
    · rfl
    · simp [whole, hb, UnpackedFloat.mul]
      rfl
  rcases Nat.eq_zero_or_pos b with rfl | hb
  · simp [whole, ha, UnpackedFloat.mul]
    rfl
  have hn : 0 < a * b := Nat.mul_pos ha hb
  have hsa := wholeShift_add_log2 ha.ne' (lt_of_le_of_lt (Nat.le_mul_of_pos_right a hb) hab)
  have hsb := wholeShift_add_log2 hb.ne' (lt_of_le_of_lt (Nat.le_mul_of_pos_left b ha) hab)
  have hsn := wholeShift_add_log2 hn.ne' hab
  have hlogs := log2_add_log2_le_log2_mul ha.ne' hb.ne'
  -- the product carries `k` more zero bits than the double of `a * b`
  obtain ⟨k, hk⟩ : ∃ k, wholeShift a + wholeShift b = wholeShift (a * b) + k :=
    ⟨wholeShift a + wholeShift b - wholeShift (a * b), by omega⟩
  have hmant : a * 2 ^ wholeShift a * (b * 2 ^ wholeShift b) =
      a * b * 2 ^ wholeShift (a * b) * 2 ^ k := by
    calc a * 2 ^ wholeShift a * (b * 2 ^ wholeShift b)
        = a * b * 2 ^ (wholeShift a + wholeShift b) := by rw [Nat.pow_add]; ring
      _ = a * b * 2 ^ (wholeShift (a * b) + k) := by rw [hk]
      _ = a * b * 2 ^ wholeShift (a * b) * 2 ^ k := by rw [Nat.pow_add]; ring
  have hexp : -(wholeShift a : Int) + -(wholeShift b : Int) = -(wholeShift (a * b) : Int) - k := by
    omega
  rw [whole_of_pos ha, whole_of_pos hb, whole_of_pos hn, UnpackedFloat.mul]
  simp only [hmant, hexp]
  exact roundWithAccuracy_whole _ hn hab k

theorem unpackSign_packComponents {spec : Format} {sign : Sign} {exponent mantissa} :
    unpackSign (packComponents spec sign exponent mantissa) = sign.toBitVec := by
  ext i hi
  simp [unpackSign, packComponents, BitVec.getLsbD_append]
  rw [if_neg (by omega), if_neg (by omega),
    show spec.mantissaBitsWithoutImplicit + spec.exponentBits + i - spec.mantissaBitsWithoutImplicit -
      spec.exponentBits = i by omega, BitVec.getLsbD_eq_getElem hi]

theorem ofBitVec_toBitVec (s : Sign) : Sign.ofBitVec s.toBitVec = s := by
  cases s <;> rfl

theorem unpack_pack_whole {n : Nat} (hn' : n < 2 ^ 53) :
    (Float.Model.pack (whole n)).unpack = whole n := by
  rcases Nat.eq_zero_or_pos n with rfl | hn
  · rfl
  have hsh := wholeShift_add_log2 hn.ne' hn'
  have hlog : (n * 2 ^ wholeShift n).log2 = 52 := by
    rw [log2_mul_two_pow hn.ne']
    omega
  have hlo : 2 ^ 52 ≤ n * 2 ^ wholeShift n := by
    rw [← hlog]
    exact Nat.log2_self_le (by positivity)
  have hhi : n * 2 ^ wholeShift n < 2 ^ 53 := by
    have := Nat.lt_log2_self (n := n * 2 ^ wholeShift n)
    rwa [hlog] at this
  have hbiased : (-(wholeShift n : Int) + ((2 ^ (11 - 1) - 1 : Nat) : Int) + ((52 : Nat) : Int)).toNat =
      1075 - wholeShift n := by
    norm_num
    omega
  rw [whole_of_pos hn]
  simp only [Float.Model.unpack, Float.Model.pack, UInt64.toBitVec_ofBitVec, UnpackedFloat.pack,
    Format.exponentBias, Format.mantissaBits, hlog, hbiased]
  rw [if_neg (by norm_num; omega), if_pos trivial]
  have hexp : BitVec.ofNat 11 (1075 - wholeShift n) ≠ -1#11 := by
    intro h
    have := congrArg BitVec.toNat h
    simp at this
    omega
  have hexp0 : BitVec.ofNat 11 (1075 - wholeShift n) ≠ 0#11 := by
    intro h
    have := congrArg BitVec.toNat h
    simp at this
    omega
  simp only [UnpackedFloat.unpack, unpackMantissa_packComponents, unpackExponent_packComponents,
    unpackSign_packComponents, ofBitVec_toBitVec, hexp, hexp0, if_false]
  -- the stored fraction with the implicit bit is the significand again
  have hmant : (1#1 ++ BitVec.ofNat 52 (n * 2 ^ wholeShift n)).toNat = n * 2 ^ wholeShift n := by
    rw [BitVec.toNat_append, ← Nat.shiftLeft_add_eq_or_of_lt (BitVec.isLt _)]
    simp only [BitVec.toNat_ofNat, Nat.shiftLeft_eq]
    omega
  have hE : ((BitVec.ofNat 11 (1075 - wholeShift n)).toNat : Int) -
      ((Format.binary64.exponentBias : Nat) + ((52 : Nat) : Int)) = -(wholeShift n : Int) := by
    simp only [BitVec.toNat_ofNat, Format.exponentBias]
    omega
  simp only [hmant, hE]

theorem toUInt64_whole {n : Nat} (hn' : n < 2 ^ 53) : (whole n).toUInt64.toNat = n := by
  rcases Nat.eq_zero_or_pos n with rfl | hn
  · rfl
  have hsh := wholeShift_add_log2 hn.ne' hn'
  have hdown : (-(wholeShift n : Int)).toNat = 0 := by omega
  have hup : ((0 : Int) - (-(wholeShift n : Int) - ((0 : Nat) : Int))).toNat = wholeShift n := by omega
  -- the exponent is not above zero, so the truncation only shifts the zero bits out
  have hint : (whole n).toInt 0 (UInt64.size - 1) = n := by
    rw [whole_of_pos hn]
    simp only [UnpackedFloat.toInt, roundToInt, decreaseExponent, Int.sub_zero, hdown,
      Nat.shiftLeft_zero, shiftToExponent, hup, ExtendedMantissa.ofMantissaAndAccuracy,
      shiftRight_mul_two_pow, Sign.apply]
  have hsize : n < UInt64.size := by
    simp only [UInt64.size]
    omega
  rw [UnpackedFloat.toUInt64, hint, Int.toNat_natCast, UInt64.ofNatClamp_eq_ofNat _ hsize,
    UInt64.toNat_ofNat_of_lt' hsize]

/-! ## Doubles -/

theorem toModel_ofNat {n : Nat} (hn' : n < 2 ^ 53) :
    (Float.ofNat n).toModel = Float.Model.pack (whole n) := by
  have hfast : Float.ofNat n = n.toUInt64.toFloat * Float.ofBits 0x3FF0000000000000 := by
    simp only [Float.ofNat, OfScientific.ofScientific, Float.ofScientific]
    rw [dif_pos ⟨hn', by decide⟩]
    rfl
  have hone : UnpackedFloat.unpack Format.binary64 (0x3FF0000000000000 : UInt64).toBitVec = whole 1 := by
    rfl
  have hsize : n < 2 ^ 64 := by omega
  have hn : n.toUInt64.toFloat.toModel = Float.Model.pack (whole n) := by
    show Float.Model.pack (UnpackedFloat.ofNat Format.binary64 n.toUInt64.toNat) = _
    rw [Nat.toUInt64_eq, UInt64.toNat_ofNat_of_lt' (by simpa [UInt64.size] using hsize),
      ofNat_eq_whole hn']
  rw [hfast]
  show Float.Model.pack (UnpackedFloat.mul Format.binary64 (n.toUInt64.toFloat.toModel).unpack
    (Float.Model.pack (UnpackedFloat.unpack Format.binary64 (0x3FF0000000000000 : UInt64).toBitVec)).unpack) = _
  rw [hn, hone, unpack_pack_whole hn', unpack_pack_whole (by norm_num), mul_whole (by omega), Nat.mul_one]

theorem ofNat_mul_ofNat {a b : Nat} (ha : a < 2 ^ 53) (hb : b < 2 ^ 53) (hab : a * b < 2 ^ 53) :
    Float.ofNat a * Float.ofNat b = Float.ofNat (a * b) := by
  have h : (Float.ofNat a * Float.ofNat b).toModel = (Float.ofNat (a * b)).toModel := by
    show Float.Model.pack (UnpackedFloat.mul Format.binary64 (Float.ofNat a).toModel.unpack
      (Float.ofNat b).toModel.unpack) = _
    rw [toModel_ofNat ha, toModel_ofNat hb, toModel_ofNat hab, unpack_pack_whole ha,
      unpack_pack_whole hb, mul_whole hab]
  exact congrArg Float.ofModel h

theorem toUInt64_ofNat {n : Nat} (hn' : n < 2 ^ 53) : (Float.ofNat n).toUInt64.toNat = n := by
  show (Float.ofNat n).toModel.unpack.toUInt64.toNat = n
  rw [toModel_ofNat hn', unpack_pack_whole hn', toUInt64_whole hn']

end Multibody.Decimal
