import Mathlib
import Multibody.Proofs.Analysis.Transform

/-!
# Spectra and dominant frequencies over the reals

The power spectrum has one bin per frequency below half the largest power of
two (`size_powerSpectrum`), each the magnitude of the discrete Fourier
transform (`getElem_powerSpectrum`).  A sampled cosine on a bin has a
transform zero but at its own bin (`dft_cosine`), so its dominant frequency
is exactly `k / (n dt)` (`dominantFrequency_tone`).
-/

namespace Multibody

@[simp] theorem SquareRoot.sqrt_real (x : ℝ) : SquareRoot.sqrt x = Real.sqrt x := rfl

namespace Analysis

open scoped Real
open Finset

@[simp] theorem TransformNumber.abs_real (x : ℝ) : TransformNumber.abs x = |x| := rfl

@[simp] theorem TransformNumber.isInf_real (x : ℝ) : TransformNumber.isInf x = false := rfl

@[simp] theorem TransformNumber.isNaN_real (x : ℝ) : TransformNumber.isNaN x = false := rfl

theorem mul_sqrt_one_add_ratio {p : ℝ} (q : ℝ) (hp : 0 < p) :
    p * Real.sqrt (1 + q / p * (q / p)) = Real.sqrt (p * p + q * q) := by
  rw [← Real.sqrt_mul_self hp.le, ← Real.sqrt_mul (mul_self_nonneg p), Real.sqrt_mul_self hp.le]
  congr 1
  field_simp

theorem Complex.abs_eq_norm (z : Complex ℝ) : z.abs = ‖z.toC‖ := by
  have hnorm : ‖z.toC‖ = Real.sqrt (|z.re| * |z.re| + |z.im| * |z.im|) := by
    rw [Complex.norm_eq_sqrt_sq_add_sq]
    simp [abs_mul_abs_self, sq]
  rw [hnorm]
  simp only [Complex.abs, TransformNumber.abs_real, TransformNumber.isInf_real,
    TransformNumber.isNaN_real, Bool.or_false, Bool.false_eq_true, if_false,
    SquareRoot.sqrt_real, SphereDetector.ofScientific_zero_real,
    SphereDetector.ofScientific_one_real]
  by_cases hlt : |z.re| < |z.im|
  · -- the imaginary part is the larger
    have hpos : 0 < |z.im| := lt_of_le_of_lt (abs_nonneg _) hlt
    simp only [hlt, if_true, beq_iff_eq, hpos.ne', if_false]
    rw [mul_sqrt_one_add_ratio _ hpos, add_comm]
  · simp only [hlt, if_false, beq_iff_eq]
    split_ifs with h0
    · have him : |z.im| = 0 := le_antisymm (h0 ▸ not_lt.mp hlt) (abs_nonneg _)
      simp [h0, him]
    · exact mul_sqrt_one_add_ratio _ (lt_of_le_of_ne (abs_nonneg _) (Ne.symm h0))

theorem floorPow2_eq {n : ℕ} (hn : n ≠ 0) : floorPow2 n = 2 ^ n.log2 := by
  rw [floorPow2, if_neg (by omega), Nat.pow_eq]

theorem floorPow2_le (n : ℕ) : floorPow2 n ≤ n := by
  rcases Nat.eq_zero_or_pos n with rfl | hn
  · rfl
  · rw [floorPow2_eq hn.ne']
    exact Nat.log2_self_le hn.ne'

theorem two_le_floorPow2_iff {n : ℕ} : 2 ≤ floorPow2 n ↔ 2 ≤ n := by
  constructor
  · intro h
    exact h.trans (floorPow2_le n)
  · intro h
    rw [floorPow2_eq (by omega)]
    have hlog : 1 ≤ n.log2 := (Nat.le_log2 (by omega)).mpr (by simpa using h)
    calc 2 = 2 ^ 1 := rfl
      _ ≤ 2 ^ n.log2 := Nat.pow_le_pow_right (by norm_num) hlog

@[simp] theorem floorPow2_two_pow (m : ℕ) : floorPow2 (2 ^ m) = 2 ^ m := by
  rw [floorPow2_eq (by positivity), Nat.log2_two_pow]

example : floorPow2 1000 = 512 := by decide

theorem floorPow2_div_two_of_lt {n : ℕ} (h : n < 2) : floorPow2 n / 2 = 0 := by
  interval_cases n <;> rfl

/-- The mean of the first `n` samples. -/
noncomputable def meanOf (data : Array ℝ) (n : ℕ) : ℝ := (∑ j ∈ range n, data[j]!) / n

/-- The first `n` samples less their mean, as complex numbers. -/
noncomputable def centered (data : Array ℝ) (n j : ℕ) : ℂ :=
  ((data[j]! - meanOf data n : ℝ) : ℂ)

theorem foldl_add_eq_sum (xs : Array ℝ) :
    xs.foldl (· + ·) 0 = ∑ j ∈ range xs.size, xs[j]! := by
  rw [← Array.foldl_toList, ← List.sum_eq_foldl, ← Fin.sum_univ_getElem, Finset.sum_range]
  refine Fintype.sum_congr _ _ fun j => ?_
  rw [getElem!_pos xs (j : ℕ) (by simp), Array.getElem_toList]

theorem getElem!_extract {xs : Array ℝ} {n j : ℕ} (hj : j < n) (hn : n ≤ xs.size) :
    (xs.extract 0 n)[j]! = xs[j]! := by
  rw [getElem!_pos (xs.extract 0 n) j (by simp; omega), getElem!_pos xs j (by omega)]
  simp

theorem powerSpectrum_eq {data : Array ℝ} (h : 2 ≤ data.size) :
    ∃ f : Array (Complex ℝ), f.size = floorPow2 data.size ∧
      (∀ k (hk : k < f.size),
        f[k].toC = dft (floorPow2 data.size) (centered data (floorPow2 data.size)) k) ∧
      powerSpectrum data = (f.extract 0 (floorPow2 data.size / 2)).map Complex.abs := by
  set n := floorPow2 data.size with hn
  have h2 : 2 ≤ n := two_le_floorPow2_iff.mpr h
  have hle : n ≤ data.size := floorPow2_le _
  have hpow : n = 2 ^ data.size.log2 := floorPow2_eq (by omega)
  set xs := data.extract 0 n with hxs
  have hsize : xs.size = n := by simp [hxs, hle]
  have hmean : xs.foldl (· + ·) 0.0 / ofCount n = meanOf data n := by
    rw [SphereDetector.ofScientific_zero_real, foldl_add_eq_sum, ofCount_real, meanOf, hsize]
    congr 1
    exact sum_congr rfl fun j hj => getElem!_extract (mem_range.mp hj) hle
  have hys : (xs.map (· - meanOf data n)).size = 2 ^ data.size.log2 := by
    simp [hsize, hpow]
  obtain ⟨f, hf, hfsize, hfval⟩ := fft_eq_dft hys
  refine ⟨f, by rw [hfsize, Array.size_map, hsize], fun k hk => ?_, ?_⟩
  · rw [hfval k hk, Array.size_map, hsize]
    refine dft_congr (fun j hj => ?_) k
    rw [getElem!_pos _ j (by simp [hsize, hj]), centered, getElem!_pos data j (by omega)]
    simp [hxs]
  · simp only [powerSpectrum, ← hn, Nat.not_lt.mpr h2, if_false]
    rw [hmean, hf]

theorem powerSpectrum_of_lt_two {data : Array ℝ} (h : data.size < 2) :
    powerSpectrum data = #[] := by
  have hn : floorPow2 data.size < 2 := lt_of_le_of_lt (floorPow2_le _) h
  simp [powerSpectrum, hn]

theorem size_powerSpectrum (data : Array ℝ) :
    (powerSpectrum data).size = floorPow2 data.size / 2 := by
  by_cases h : 2 ≤ data.size
  · obtain ⟨f, hfsize, -, hps⟩ := powerSpectrum_eq h
    rw [hps, Array.size_map, Array.size_extract, hfsize]
    omega
  · rw [powerSpectrum_of_lt_two (by omega), floorPow2_div_two_of_lt (by omega)]
    rfl

theorem getElem_powerSpectrum (data : Array ℝ) (l : ℕ) (hl : l < (powerSpectrum data).size) :
    (powerSpectrum data)[l] =
      ‖dft (floorPow2 data.size) (centered data (floorPow2 data.size)) l‖ := by
  have h : 2 ≤ data.size := by
    by_contra h
    rw [powerSpectrum_of_lt_two (by omega)] at hl
    simp at hl
  obtain ⟨f, hfsize, hfval, hps⟩ := powerSpectrum_eq h
  have hlf : l < f.size := by rw [size_powerSpectrum] at hl; omega
  simp only [hps, Array.getElem_map, Array.getElem_extract, Nat.zero_add]
  rw [Complex.abs_eq_norm, hfval l hlf]

theorem dft_centered_zero (data : Array ℝ) {n : ℕ} (hn : n ≠ 0) :
    dft n (centered data n) 0 = 0 := by
  have hsum : ∑ j ∈ range n, (data[j]! - meanOf data n) = 0 := by
    rw [sum_sub_distrib, sum_const, card_range, meanOf, nsmul_eq_mul]
    field_simp
    ring
  simp only [dft, Nat.cast_zero, mul_zero, zero_div, neg_zero, Complex.exp_zero, mul_one, centered]
  exact_mod_cast hsum

theorem getElem_powerSpectrum_zero (data : Array ℝ) (h : 0 < (powerSpectrum data).size) :
    (powerSpectrum data)[0] = 0 := by
  have hn : floorPow2 data.size ≠ 0 := by rw [size_powerSpectrum] at h; omega
  rw [getElem_powerSpectrum, dft_centered_zero data hn, norm_zero]

theorem isPrimitiveRoot_root {n : ℕ} (hn : n ≠ 0) : IsPrimitiveRoot (root n) n := by
  have h := (Complex.isPrimitiveRoot_exp n hn).inv
  rwa [← Complex.exp_neg] at h

theorem sum_pow_eq_zero {r : ℂ} {n : ℕ} (hr : r ^ n = 1) (h1 : r ≠ 1) :
    ∑ j ∈ range n, r ^ j = 0 := by
  rw [geom_sum_eq h1, hr, sub_self, zero_div]

theorem cosine_term (A φ : ℝ) {n : ℕ} (k l j : ℕ) :
    ((A * Real.cos (2 * π * k * j / n + φ) : ℝ) : ℂ) * root n ^ (j * l) =
      A / 2 * (Complex.exp (φ * Complex.I) * ((root n)⁻¹ ^ k * root n ^ l) ^ j +
        Complex.exp (-(φ * Complex.I)) * (root n ^ (k + l)) ^ j) := by
  have hup : Complex.exp (((2 * π * k * j / n + φ : ℝ) : ℂ) * Complex.I) =
      Complex.exp (φ * Complex.I) * (root n)⁻¹ ^ (k * j) := by
    rw [root, ← Complex.exp_neg, neg_neg, ← Complex.exp_nat_mul, ← Complex.exp_add]
    congr 1
    push_cast
    ring
  have hdown : Complex.exp (-((2 * π * k * j / n + φ : ℝ) : ℂ) * Complex.I) =
      Complex.exp (-(φ * Complex.I)) * root n ^ (k * j) := by
    rw [root, ← Complex.exp_nat_mul, ← Complex.exp_add]
    congr 1
    push_cast
    ring
  rw [Complex.ofReal_mul, Complex.ofReal_cos, Complex.cos, hup, hdown]
  ring

theorem dft_cosine (A φ : ℝ) {n k l : ℕ} (hk : 0 < k) (hkn : 2 * k < n) (hl : 2 * l < n) :
    dft n (fun j => ((A * Real.cos (2 * π * k * j / n + φ) : ℝ) : ℂ)) l =
      if l = k then A * n / 2 * Complex.exp (φ * Complex.I) else 0 := by
  have hn : n ≠ 0 := by omega
  have hρ := isPrimitiveRoot_root hn
  have hρ0 : root n ≠ 0 := hρ.ne_zero hn
  -- the part turning with the transform cancels except at its own frequency
  have hsum1 : ∑ j ∈ range n, ((root n)⁻¹ ^ k * root n ^ l) ^ j =
      if l = k then (n : ℂ) else 0 := by
    split_ifs with hlk
    · subst hlk
      simp [inv_pow, inv_mul_cancel₀ (pow_ne_zero _ hρ0)]
    · apply sum_pow_eq_zero
      · rw [show ((root n)⁻¹ ^ k * root n ^ l) ^ n =
            ((root n ^ n)⁻¹) ^ k * (root n ^ n) ^ l by ring, hρ.pow_eq_one]
        simp
      · rw [inv_pow, Ne, inv_mul_eq_one₀ (pow_ne_zero _ hρ0)]
        exact fun h => hlk (hρ.pow_inj (by omega) (by omega) h).symm
  -- the part turning against it cancels everywhere, as `0 < k + l < n`
  have hsum2 : ∑ j ∈ range n, (root n ^ (k + l)) ^ j = 0 :=
    sum_pow_eq_zero (by rw [← pow_mul, mul_comm, pow_mul, hρ.pow_eq_one, one_pow])
      (hρ.pow_ne_one_of_pos_of_lt (by omega) (by omega))
  rw [dft_eq_sum_root, sum_congr rfl (fun j _ => cosine_term A φ k l j), ← mul_sum,
    sum_add_distrib, ← mul_sum, ← mul_sum, hsum1, hsum2]
  split_ifs <;> ring

/-- `n` samples of a cosine of `k` cycles over the series, with amplitude `A`
and phase `φ`, on the offset `c`: sample `j` is at the angle `2πkj/n`, the
whole turns counted in naturals. -/
noncomputable def tone (n : ℕ) (c A φ : ℝ) (k : ℕ) : Array ℝ :=
  Array.ofFn fun j : Fin n => c + A * Real.cos (π * (2 * k * (j : ℕ) : ℕ) / n + φ)

section Tone

variable {n k : ℕ} {c A φ : ℝ}

@[simp] theorem size_tone : (tone n c A φ k).size = n := by
  simp [tone]

theorem getElem!_tone {j : ℕ} (hj : j < n) :
    (tone n c A φ k)[j]! = c + A * Real.cos (2 * π * k * j / n + φ) := by
  have hangle : π * ((2 * k * j : ℕ) : ℝ) / n = 2 * π * k * j / n := by
    push_cast
    ring
  rw [getElem!_pos _ j (by simp [hj])]
  simp only [tone, Array.getElem_ofFn, hangle]

variable (hk : 0 < k) (hkn : 2 * k < n)
include hk hkn

theorem sum_cosine : ∑ j ∈ range n, A * Real.cos (2 * π * k * j / n + φ) = 0 := by
  have h := dft_cosine A φ hk hkn (by omega : 2 * 0 < n)
  rw [if_neg (by omega), dft] at h
  simp only [Nat.cast_zero, mul_zero, zero_div, neg_zero, Complex.exp_zero, mul_one] at h
  exact_mod_cast h

theorem meanOf_tone : meanOf (tone n c A φ k) n = c := by
  have hn : (n : ℝ) ≠ 0 := by norm_cast; omega
  rw [meanOf, sum_congr rfl (fun j hj => getElem!_tone (mem_range.mp hj)), sum_add_distrib,
    sum_cosine hk hkn, sum_const, card_range, nsmul_eq_mul, add_zero]
  field_simp

theorem centered_tone {j : ℕ} (hj : j < n) :
    centered (tone n c A φ k) n j = ((A * Real.cos (2 * π * k * j / n + φ) : ℝ) : ℂ) := by
  rw [centered, getElem!_tone hj, meanOf_tone hk hkn, add_sub_cancel_left]

end Tone

theorem getElem!_powerSpectrum_tone {m k : ℕ} {c A φ : ℝ} (hk : 0 < k) (hkn : 2 * k < 2 ^ m)
    (l : ℕ) :
    (powerSpectrum (tone (2 ^ m) c A φ k))[l]! = if l = k then |A| * 2 ^ m / 2 else 0 := by
  have heven : 2 * (2 ^ m / 2) = 2 ^ m :=
    two_mul_half_of_powerOfTwo (by omega) (powerOfTwo_two_pow m)
  have hsize : (powerSpectrum (tone (2 ^ m) c A φ k)).size = 2 ^ m / 2 := by
    rw [size_powerSpectrum, size_tone, floorPow2_two_pow]
  by_cases hl : l < 2 ^ m / 2
  · have hl2 : 2 * l < 2 ^ m := by omega
    rw [getElem!_pos _ l (by rw [hsize]; exact hl), getElem_powerSpectrum, size_tone,
      floorPow2_two_pow,
      dft_congr (fun j hj => centered_tone hk hkn hj), dft_cosine A φ hk hkn hl2]
    split_ifs
    · rw [norm_mul, Complex.norm_exp_ofReal_mul_I, mul_one, norm_div, norm_mul,
        Complex.norm_real, Complex.norm_natCast, Real.norm_eq_abs, Complex.norm_ofNat]
      push_cast
      ring
    · exact norm_zero
  · rw [getElem!_neg _ l (by rw [hsize]; exact hl), if_neg (by omega)]
    rfl

theorem foldl_strongest {v : ℕ → ℝ} {k : ℕ} (hdom : ∀ i ≠ k, v i < v k) (l : List ℕ)
    {p : ℕ} (hp : p = k ∨ k ∈ l) : l.foldl (fun p i => if v i > v p then i else p) p = k := by
  induction l generalizing p with
  | nil => simpa using hp
  | cons i l ih =>
    rw [List.foldl_cons]
    apply ih
    rcases hp with rfl | hmem
    · -- at the strongest bin no other bin takes over
      left
      by_cases hi : i = p
      · simp [hi]
      · simp [not_lt.mpr (hdom i hi).le]
    · by_cases hi : i = k
      · -- the scan reaches the strongest bin and takes it
        left
        subst hi
        by_cases hpi : p = i
        · simp [hpi]
        · simp [hdom p hpi]
      · right
        exact (List.mem_cons.mp hmem).resolve_left (Ne.symm hi)

/-- A spectrum of at least three bins with one non-constant bin `k` that is
positive while every other bin is zero reads as that bin's frequency, exactly:
the scan stops at `k` and the parabola through its zero neighbours is flat. -/
theorem dominantFrequency_of_single_bin {data : Array ℝ} {dt : ℝ} {k : ℕ}
    (hsize : 3 ≤ (powerSpectrum data).size) (hdt : 0 < dt) (hk : 1 ≤ k)
    (hpos : 0 < (powerSpectrum data)[k]!) (hzero : ∀ i ≠ k, (powerSpectrum data)[i]! = 0) :
    dominantFrequency data dt = some (k / ((2 * (powerSpectrum data).size : ℕ) * dt)) := by
  set ps := powerSpectrum data with hps
  have hks : k < ps.size := by
    by_contra h
    rw [getElem!_neg ps k h] at hpos
    exact lt_irrefl _ hpos
  have hpeak : ((List.range ps.size).drop 2).foldl (fun p i => if ps[i]! > ps[p]! then i else p) 1
      = k := by
    refine foldl_strongest (fun i hi => by rw [hzero i hi]; exact hpos) _ ?_
    rcases Nat.lt_or_ge k 2 with h | h
    · left
      omega
    · right
      simp only [List.mem_iff_getElem, List.getElem_drop, List.getElem_range, List.length_drop,
        List.length_range]
      exact ⟨k - 2, by omega, by omega⟩
  have hcond : (decide (ps.size < 3) || decide (dt < 0.0) || dt == 0.0) = false := by
    simp [SphereDetector.ofScientific_zero_real, hdt.ne', not_lt.mpr hsize, not_lt.mpr hdt.le]
  simp only [dominantFrequency, ← hps, hpeak, hcond, Bool.false_eq_true, if_false]
  -- both neighbours are zero, so the parabola moves the bin by nothing
  rw [hzero (k - 1) (by omega), hzero (k + 1) (by omega)]
  simp only [sub_self, mul_zero, zero_div, add_zero, ite_self, ofCount_real]

/-- The dominant frequency of a tone of `k` cycles over `n = 2 ^ m ≥ 8`
samples taken `dt` apart is exactly `k / (n dt)`, for every offset, phase and
amplitude other than zero, and every bin from the first to below the middle. -/
theorem dominantFrequency_tone {m k : ℕ} {c A φ dt : ℝ} (hm : 8 ≤ 2 ^ m) (hdt : 0 < dt)
    (hA : A ≠ 0) (hk : 1 ≤ k) (hkn : k < 2 ^ m / 2) :
    dominantFrequency (tone (2 ^ m) c A φ k) dt = some (k / (2 ^ m * dt)) := by
  have hkn2 : 2 * k < 2 ^ m := by omega
  have heven : 2 * (2 ^ m / 2) = 2 ^ m :=
    two_mul_half_of_powerOfTwo (by omega) (powerOfTwo_two_pow m)
  have hsize : (powerSpectrum (tone (2 ^ m) c A φ k)).size = 2 ^ m / 2 := by
    rw [size_powerSpectrum, size_tone, floorPow2_two_pow]
  have hbins : ∀ l, (powerSpectrum (tone (2 ^ m) c A φ k))[l]! =
      if l = k then |A| * 2 ^ m / 2 else 0 := getElem!_powerSpectrum_tone hk hkn2
  have hpeak : 0 < (powerSpectrum (tone (2 ^ m) c A φ k))[k]! := by
    rw [hbins, if_pos rfl]
    have := abs_pos.mpr hA
    positivity
  rw [dominantFrequency_of_single_bin (by omega) hdt hk hpeak
    (fun i hi => by rw [hbins, if_neg hi]), hsize, heven]
  push_cast
  rfl

/-- What the transform, the spectrum and the frequency estimate compute on
real series. -/
structure SpectralAnalysis : Prop where
  /-- A series whose length is a power of two transforms into its discrete
  Fourier transform. -/
  fft_dft : ∀ (m : ℕ) (data : Array ℝ), data.size = 2 ^ m → ∃ out, fft data = some out ∧
    out.size = data.size ∧
      ∀ k (hk : k < out.size), out[k].toC = dft data.size (fun j => data[j]!) k
  /-- The transform fails exactly on the lengths from three on that are not
  powers of two. -/
  fft_none : ∀ data : Array ℝ, fft data = none ↔ 3 ≤ data.size ∧ ¬ data.size.isPowerOfTwo
  spectrum_size : ∀ data : Array ℝ, (powerSpectrum data).size = floorPow2 data.size / 2
  spectrum_short : ∀ data : Array ℝ, data.size < 2 → powerSpectrum data = #[]
  spectrum_constant : ∀ (data : Array ℝ) (h : 0 < (powerSpectrum data).size),
    (powerSpectrum data)[0] = 0
  spectrum_bin : ∀ (data : Array ℝ) (l : ℕ) (hl : l < (powerSpectrum data).size),
    (powerSpectrum data)[l] =
      ‖dft (floorPow2 data.size) (centered data (floorPow2 data.size)) l‖
  /-- An on-bin tone is read at its exact frequency. -/
  tone_frequency : ∀ (m k : ℕ) (c A φ dt : ℝ), 8 ≤ 2 ^ m → 0 < dt → A ≠ 0 →
    1 ≤ k → k < 2 ^ m / 2 →
      dominantFrequency (tone (2 ^ m) c A φ k) dt = some (k / (2 ^ m * dt))

theorem spectral_analysis_exact : SpectralAnalysis where
  fft_dft _ _ h := fft_eq_dft h
  fft_none := fft_eq_none_iff
  spectrum_size := size_powerSpectrum
  spectrum_short _ h := powerSpectrum_of_lt_two h
  spectrum_constant := getElem_powerSpectrum_zero
  spectrum_bin := getElem_powerSpectrum
  tone_frequency _ _ _ _ _ _ hm hdt hA hk hkn := dominantFrequency_tone hm hdt hA hk hkn

end Analysis

end Multibody
