import Mathlib
import Multibody.Decimal.Read

/-!
# Double words and the numbers they stand for

A finite double is a sign, a significand below `2 ^ 53` and an exponent: a
`Binary` whose significand has its top bit set, or a subnormal one at the
least exponent `-1074` (`Binary.Canonical`).  Its word puts the fraction in
the low 52 bits, the biased exponent above it and the sign on top.

The words the decimal reader builds are kept bit for bit by the logical model
of `Float`, which only folds every NaN into one (`toBits_ofBits`).  So a
canonical binary read back from its word is itself (`ofFloat?_toFloat`), and
every binary read from a double is canonical (`canonical_of_ofFloat?`).
-/

namespace Multibody.Decimal

section Model

open Float.Model Float.Model.UnpackedFloat

private theorem toNat_unpackMantissa (b : BitVec 64) :
    (@unpackMantissa Format.binary64 b).toNat = b.toNat % 2 ^ 52 := by
  simp [unpackMantissa]

private theorem toNat_unpackExponent (b : BitVec 64) :
    (@unpackExponent Format.binary64 b).toNat = b.toNat / 2 ^ 52 % 2 ^ 11 := by
  simp [unpackExponent, Nat.shiftRight_eq_div_pow]

private theorem toNat_unpackSign (b : BitVec 64) :
    (@unpackSign Format.binary64 b).toNat = b.toNat / 2 ^ 63 := by
  have hb := b.isLt
  simp [unpackSign, Nat.shiftRight_eq_div_pow]
  omega

private theorem toNat_packComponents (s : Sign) (e : BitVec 11) (m : BitVec 52) :
    (packComponents Format.binary64 s e m).toNat =
      s.toBitVec.toNat * 2 ^ 63 + e.toNat * 2 ^ 52 + m.toNat := by
  have he := e.isLt
  have hm := m.isLt
  simp only [packComponents, BitVec.toNat_append]
  rw [← Nat.shiftLeft_add_eq_or_of_lt he, ← Nat.shiftLeft_add_eq_or_of_lt (by simpa using hm),
    Nat.shiftLeft_eq, Nat.shiftLeft_eq]
  ring

private theorem toBitVec_ofBitVec (v : BitVec 1) : (Sign.ofBitVec v).toBitVec = v := by
  revert v; decide

theorem pack_unpack (b : BitVec 64)
    (h : b.toNat / 2 ^ 52 % 2 ^ 11 ≠ 2047 ∨ b.toNat % 2 ^ 52 = 0) :
    UnpackedFloat.pack Format.binary64 (UnpackedFloat.unpack Format.binary64 b) = b := by
  have hs := toNat_unpackSign b
  have he := toNat_unpackExponent b
  have hm := toNat_unpackMantissa b
  have hb := b.isLt
  have hsplit : b.toNat = b.toNat / 2 ^ 63 * 2 ^ 63 + b.toNat / 2 ^ 52 % 2 ^ 11 * 2 ^ 52 +
      b.toNat % 2 ^ 52 := by omega
  apply BitVec.eq_of_toNat_eq
  unfold UnpackedFloat.unpack
  dsimp only
  split
  · rename_i hinf
    have hexp : b.toNat / 2 ^ 52 % 2 ^ 11 = 2047 := by rw [← he, hinf]; rfl
    split
    · rename_i hz
      have hman : b.toNat % 2 ^ 52 = 0 := by rw [← hm, hz]; rfl
      simp only [UnpackedFloat.pack, packedInfinity, toNat_packComponents, toBitVec_ofBitVec, hs]
      simp
      omega
    · rename_i hz
      have hman : b.toNat % 2 ^ 52 ≠ 0 := fun h0 =>
        hz (BitVec.eq_of_toNat_eq (by rw [hm, h0]; rfl))
      omega
  · rename_i hinf
    split
    · rename_i hzero
      have hexp : b.toNat / 2 ^ 52 % 2 ^ 11 = 0 := by rw [← he, hzero]; rfl
      split
      · rename_i hz
        have hman : b.toNat % 2 ^ 52 = 0 := by rw [← hm, hz]; rfl
        simp only [UnpackedFloat.pack, packedZero, toNat_packComponents, toBitVec_ofBitVec, hs]
        simp
        omega
      · -- a subnormal: its significand has fewer than 53 bits
        rename_i hz
        have hman : b.toNat % 2 ^ 52 ≠ 0 := fun h0 =>
          hz (BitVec.eq_of_toNat_eq (by rw [hm, h0]; rfl))
        have hlog : (@unpackMantissa Format.binary64 b).toNat.log2 < 52 := by
          rw [hm, Nat.log2_lt hman]; omega
        simp only [UnpackedFloat.pack, Format.exponentBias, Format.mantissaBits, he, hexp]
        rw [if_neg (by norm_num), if_neg (by omega), toNat_packComponents, toBitVec_ofBitVec, hs, hm]
        simp
        omega
    · -- a normal double: the implicit top bit makes a 53-bit significand
      rename_i hzero
      have hexp : b.toNat / 2 ^ 52 % 2 ^ 11 ≠ 0 := fun h0 =>
        hzero (BitVec.eq_of_toNat_eq (by rw [he, h0]; rfl))
      have hexp' : b.toNat / 2 ^ 52 % 2 ^ 11 ≠ 2047 := fun h0 =>
        hinf (BitVec.eq_of_toNat_eq (by rw [he, h0]; rfl))
      have hm1 : (1#1 ++ @unpackMantissa Format.binary64 b).toNat =
          2 ^ 52 + b.toNat % 2 ^ 52 := by
        rw [BitVec.toNat_append, ← Nat.shiftLeft_add_eq_or_of_lt
          (by simpa using (@unpackMantissa Format.binary64 b).isLt), hm]
        simp [Nat.shiftLeft_eq]
      have hlog : (2 ^ 52 + b.toNat % 2 ^ 52).log2 = 52 := by
        rw [Nat.log2_eq_iff (by omega)]; omega
      have hbe : (((b.toNat / 2 ^ 52 % 2 ^ 11 : Nat) : Int) -
          (((2 ^ (11 - 1) - 1 : Nat) : Int) + ((52 : Nat) : Int)) +
          ((2 ^ (11 - 1) - 1 : Nat) : Int) + ((52 : Nat) : Int)).toNat =
            b.toNat / 2 ^ 52 % 2 ^ 11 := by omega
      simp only [UnpackedFloat.pack, Format.exponentBias, Format.mantissaBits, he, hm1, hlog, hbe]
      rw [if_neg (by omega), if_pos trivial, toNat_packComponents, toBitVec_ofBitVec, hs]
      simp only [BitVec.toNat_ofNat]
      omega

private theorem unpack_nan (b : BitVec 64) (he : b.toNat / 2 ^ 52 % 2 ^ 11 = 2047)
    (hm : b.toNat % 2 ^ 52 ≠ 0) :
    @unpackExponent Format.binary64 b = -1#_ ∧ @unpackMantissa Format.binary64 b ≠ 0#_ := by
  constructor
  · apply BitVec.eq_of_toNat_eq
    rw [toNat_unpackExponent, he]
    rfl
  · intro h
    apply hm
    rw [← toNat_unpackMantissa, h]
    rfl

theorem unpack_eq_notANumber_iff (x : Float) :
    x.toModel.unpack = .notANumber ↔ isNaN x = true := by
  have hexp : @unpackExponent Format.binary64 x.toBits.toBitVec = -1#_ ↔
      x.toBits.toNat / 2 ^ 52 % 2 ^ 11 = 2047 := by
    rw [← BitVec.toNat_inj, toNat_unpackExponent]; rfl
  have hman : @unpackMantissa Format.binary64 x.toBits.toBitVec = 0#_ ↔
      x.toBits.toNat % 2 ^ 52 = 0 := by
    rw [← BitVec.toNat_inj, toNat_unpackMantissa]; rfl
  simp only [isNaN, exponentBits, fractionBits, Nat.pow_eq, Bool.and_eq_true]
  show UnpackedFloat.unpack Format.binary64 x.toBits.toBitVec = _ ↔ _
  unfold UnpackedFloat.unpack
  dsimp only
  split_ifs <;> simp_all

theorem eq_of_toBits_eq {x y : Float} (h : x.toBits = y.toBits) : x = y := by
  obtain ⟨⟨bx, vx⟩⟩ := x
  obtain ⟨⟨bx', vx'⟩⟩ := y
  change bx = bx' at h
  subst h
  rfl

theorem eq_of_isNaN {x y : Float} (hx : isNaN x = true) (hy : isNaN y = true) : x = y := by
  have canon : ∀ z : Float, isNaN z = true → z.toBits.toBitVec = packedNaN Format.binary64 := by
    intro z hz
    simp only [isNaN, exponentBits, fractionBits, Nat.pow_eq, Bool.and_eq_true] at hz
    obtain ⟨he, hm⟩ := unpack_nan z.toBits.toBitVec (by simpa using of_decide_eq_true hz.1)
      (by simpa using of_decide_eq_true hz.2)
    exact z.toModel.valid.eq_packedNaN he hm
  apply eq_of_toBits_eq
  apply UInt64.toBitVec_inj.mp
  rw [canon x hx, canon y hy]

end Model

theorem toBits_ofBits (w : UInt64)
    (h : w.toNat / 2 ^ 52 % 2 ^ 11 ≠ 2047 ∨ w.toNat % 2 ^ 52 = 0) :
    (Float.ofBits w).toBits = w := by
  show UInt64.ofBitVec (Float.Model.UnpackedFloat.pack Float.Model.Format.binary64
    (Float.Model.UnpackedFloat.unpack Float.Model.Format.binary64 w.toBitVec)) = w
  rw [pack_unpack w.toBitVec h]

theorem toBits_wordOf (neg : Bool) (e f : Nat) (he : e < 2047 ∨ e = 2047 ∧ f = 0)
    (hf : f < 2 ^ 52) :
    (wordOf neg e f).toBits.toNat = (if neg then 2 ^ 63 else 0) + e * 2 ^ 52 + f := by
  have hw : ((if neg then Nat.pow 2 63 else 0) + e * Nat.pow 2 52 + f) < 2 ^ 64 := by
    simp only [Nat.pow_eq]; split <;> omega
  unfold wordOf
  rw [toBits_ofBits _ (by rw [UInt64.toNat_ofNat_of_lt' hw]; simp only [Nat.pow_eq]; split <;> omega),
    UInt64.toNat_ofNat_of_lt' hw]
  simp only [Nat.pow_eq]

theorem ofFloat?_wordOf (neg : Bool) (e f : Nat) (he : e < 2047 ∨ e = 2047 ∧ f = 0)
    (hf : f < 2 ^ 52) :
    Binary.ofFloat? (wordOf neg e f) =
      if e = 2047 then none
      else if e = 0 then some ⟨neg, f, -1074⟩
      else some ⟨neg, 2 ^ 52 + f, (e : Int) - 1075⟩ := by
  have hbits := toBits_wordOf neg e f he hf
  have hfield : exponentBits (wordOf neg e f).toBits.toNat = e := by
    rw [hbits, exponentBits]; simp only [Nat.pow_eq]; split <;> omega
  have hfrac : fractionBits (wordOf neg e f).toBits.toNat = f := by
    rw [hbits, fractionBits]; simp only [Nat.pow_eq]; split <;> omega
  have hsign : signBit (wordOf neg e f).toBits.toNat = neg := by
    rw [hbits, signBit]; simp only [Nat.pow_eq]; cases neg <;> simp <;> omega
  unfold Binary.ofFloat?
  simp only [hfield, hfrac, hsign, Nat.pow_eq]

/-- The magnitude `mant · 2 ^ exp` of a binary value. -/
def Binary.value (b : Binary) : ℚ := b.mant * (2 : ℚ) ^ b.exp

/-- The significand and exponent of a finite double: a 53-bit significand with its top
bit set, or a subnormal one (zero included) at the least exponent. -/
def Binary.Canonical (b : Binary) : Prop :=
  b.mant < 2 ^ 53 ∧ -1074 ≤ b.exp ∧ b.exp ≤ 971 ∧ (2 ^ 52 ≤ b.mant ∨ b.exp = -1074)

/-- The double of a canonical binary value. -/
def Binary.toFloat (b : Binary) : Float :=
  if b.mant < Nat.pow 2 52 then wordOf b.neg 0 b.mant
  else wordOf b.neg (b.exp + 1075).toNat (b.mant - Nat.pow 2 52)

theorem canonical_of_ofFloat? {x : Float} {b : Binary} (h : Binary.ofFloat? x = some b) :
    b.Canonical := by
  unfold Binary.ofFloat? at h
  have hf : fractionBits x.toBits.toNat < 2 ^ 52 := Nat.mod_lt _ (by norm_num)
  have he : exponentBits x.toBits.toNat < 2 ^ 11 := Nat.mod_lt _ (by norm_num)
  simp only [Nat.pow_eq] at h
  split at h
  · cases h
  · split at h <;> cases h <;> (unfold Binary.Canonical; dsimp only; omega)

theorem neg_of_ofFloat? {x : Float} {b : Binary} (h : Binary.ofFloat? x = some b) :
    b.neg = signOf x := by
  unfold Binary.ofFloat? at h
  dsimp only at h
  split at h
  · cases h
  · split at h <;> cases h <;> rfl

theorem ofFloat?_toFloat {c : Binary} (hc : c.Canonical) : Binary.ofFloat? c.toFloat = some c := by
  obtain ⟨neg, m, e⟩ := c
  obtain ⟨hm, hlo, hhi, htop⟩ := hc
  dsimp only at hm hlo hhi htop
  unfold Binary.toFloat
  simp only [Nat.pow_eq]
  split
  · rename_i hsub
    obtain rfl : e = -1074 := by omega
    rw [ofFloat?_wordOf _ _ _ (by omega) hsub]
    simp only [if_neg (by norm_num : (0 : Nat) ≠ 2047), if_true]
  · rename_i hnorm
    rw [ofFloat?_wordOf _ _ _ (by omega) (by omega)]
    have hmant : 2 ^ 52 + (m - 2 ^ 52) = m := by omega
    have hexp : (((e + 1075).toNat : Nat) : Int) - 1075 = e := by omega
    rw [if_neg (by omega), if_neg (by omega), hmant, hexp]

theorem signOf_toFloat {c : Binary} (hc : c.Canonical) : signOf c.toFloat = c.neg :=
  (neg_of_ofFloat? (ofFloat?_toFloat hc)).symm

theorem ofFloat?_eq_none_iff {x : Float} :
    Binary.ofFloat? x = none ↔ exponentBits x.toBits.toNat = 2047 := by
  unfold Binary.ofFloat?
  dsimp only
  split
  · simp only [*]
  · split <;> simp only [reduceCtorEq, *]

theorem isInf_eq_false_of_ofFloat? {x : Float} {b : Binary} (h : Binary.ofFloat? x = some b) :
    isInf x = false := by
  have hfin : exponentBits x.toBits.toNat ≠ 2047 := fun he =>
    by rw [ofFloat?_eq_none_iff.mpr he] at h; cases h
  simp [isInf, hfin]

theorem isNaN_or_isInf_of_ofFloat? {x : Float} (h : Binary.ofFloat? x = none) :
    isNaN x = true ∨ isInf x = true := by
  have he := ofFloat?_eq_none_iff.mp h
  by_cases hf : fractionBits x.toBits.toNat = 0
  · right; simp [isInf, he, hf]
  · left; simp [isNaN, he, hf]

theorem eq_wordOf_of_isInf {x : Float} (h : isInf x = true) : x = wordOf (signOf x) 2047 0 := by
  simp only [isInf, exponentBits, fractionBits, Nat.pow_eq, Bool.and_eq_true] at h
  have he := of_decide_eq_true h.1
  have hf := of_decide_eq_true h.2
  have hlt := x.toBits.toNat_lt
  apply eq_of_toBits_eq
  apply UInt64.toNat_inj.mp
  rw [toBits_wordOf _ _ _ (.inr ⟨rfl, rfl⟩) (by norm_num)]
  simp only [signOf, signBit, Nat.pow_eq]
  by_cases hs : 2 ^ 63 ≤ x.toBits.toNat
  · simp only [hs, decide_true, if_true]; omega
  · simp only [hs, decide_false, Bool.false_eq_true, if_false]; omega

end Multibody.Decimal
