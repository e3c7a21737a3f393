import Mathlib
import Multibody.Analysis.Spectrum
import Multibody.Proofs.Models.PowerBalance
import Multibody.Proofs.Collision.Spheres

/-!
# The radix-2 transform is the discrete Fourier transform

The transform keeps the length (`size_of_fftWith_eq_some`) and answers
exactly the powers of two and the lengths below three (`fftWith_isSome`,
`fft_eq_none_iff`).  Over the reals it is the discrete Fourier transform
(`fft_eq_dft`), by induction on the halvings (`dft_two_mul`,
`dft_add_period`, `root_two_mul_pow_half`).
-/

namespace Multibody.Analysis

theorem powerOfTwo_iff {n : ℕ} (hn : n ≠ 0) : powerOfTwo n = true ↔ n.isPowerOfTwo := by
  simp [powerOfTwo, Nat.and_sub_one_eq_zero_iff_isPowerOfTwo hn]

theorem powerOfTwo_two_pow (m : ℕ) : powerOfTwo (2 ^ m) = true :=
  (powerOfTwo_iff (by positivity)).mpr ⟨m, rfl⟩

example : powerOfTwo 12 = false ∧ powerOfTwo 16 = true := by decide

section Shape

variable {α : Type}

/-- The samples at even places, which the transform halves a series into. -/
def evens [Inhabited α] (data : Array α) : Array α :=
  (Array.range (data.size / 2)).map fun i => data[2 * i]!

/-- The samples at odd places. -/
def odds [Inhabited α] (data : Array α) : Array α :=
  (Array.range (data.size / 2)).map fun i => data[2 * i + 1]!

/-- The twiddle factor of frequency `k` in a transform of length `n`. -/
def twiddle [OfScientific α] [Mul α] [Div α] [Neg α] [CircularFunctions α]
    [TransformNumber α] (n k : ℕ) : Complex α :=
  Complex.unit (-(2.0 * TransformNumber.pi) * ofCount k / ofCount n)

/-- The butterflies that join the transforms of the two halves: sums first, then
differences. -/
def butterflies [OfScientific α] [Add α] [Sub α] [Mul α] [Div α] [Neg α] [Inhabited α]
    [CircularFunctions α] [TransformNumber α] (n : ℕ) (fe fo : Array (Complex α)) :
    Array (Complex α) :=
  let turns := (Array.range (n / 2)).map fun k =>
    let w := (twiddle n k : Complex α)
    (fe[k]!.add (w.mul fo[k]!), fe[k]!.sub (w.mul fo[k]!))
  turns.map (·.1) ++ turns.map (·.2)

@[simp] theorem size_evens [Inhabited α] (data : Array α) :
    (evens data).size = data.size / 2 := by
  simp [evens]

@[simp] theorem size_odds [Inhabited α] (data : Array α) :
    (odds data).size = data.size / 2 := by
  simp [odds]

theorem getElem!_evens [Inhabited α] {data : Array α} {u : ℕ} (hu : u < data.size / 2) :
    (evens data)[u]! = data[2 * u]! := by
  simp [evens, hu]

theorem getElem!_odds [Inhabited α] {data : Array α} {u : ℕ} (hu : u < data.size / 2) :
    (odds data)[u]! = data[2 * u + 1]! := by
  simp [odds, hu]

variable [OfScientific α] [Add α] [Sub α] [Mul α] [Div α] [Neg α] [Inhabited α]
  [CircularFunctions α] [TransformNumber α]

@[simp] theorem size_butterflies (n : ℕ) (fe fo : Array (Complex α)) :
    (butterflies n fe fo).size = 2 * (n / 2) := by
  simp [butterflies]; omega

theorem fftWith_of_size_le_one (fuel : ℕ) {data : Array α} (h : data.size ≤ 1) :
    fftWith fuel data = some (data.map (⟨·, 0.0⟩)) := by
  cases fuel <;> simp [fftWith, h]

theorem fftWith_succ_of_not_powerOfTwo (fuel : ℕ) {data : Array α} (h1 : 1 < data.size)
    (hp : powerOfTwo data.size = false) : fftWith (fuel + 1) data = none := by
  simp [fftWith, Nat.not_le.mpr h1, hp]

theorem fftWith_succ_eq_some_iff {fuel : ℕ} {data : Array α} {out : Array (Complex α)}
    (h1 : 1 < data.size) (hp : powerOfTwo data.size = true) :
    fftWith (fuel + 1) data = some out ↔ ∃ fe fo, fftWith fuel (evens data) = some fe ∧
      fftWith fuel (odds data) = some fo ∧ out = butterflies data.size fe fo := by
  simp only [fftWith, Nat.not_le.mpr h1, hp, if_false, Bool.not_true, Bool.false_eq_true]
  simp only [evens, odds, butterflies, twiddle]
  split
  · rename_i fe fo hfe hfo
    simp [hfe, hfo, eq_comm]
  · rename_i hnone
    simp only [reduceCtorEq, false_iff, not_exists, not_and]
    intro fe fo hfe hfo _
    exact hnone fe fo hfe hfo

theorem two_mul_half_of_powerOfTwo {n : ℕ} (h1 : 1 < n) (hp : powerOfTwo n = true) :
    2 * (n / 2) = n := by
  obtain ⟨k, rfl⟩ := (powerOfTwo_iff (by omega)).mp hp
  cases k with
  | zero => simp at h1
  | succ k => rw [Nat.pow_succ, Nat.mul_div_cancel _ (by norm_num), Nat.mul_comm]

theorem getElem_butterflies {n k : ℕ} (fe fo : Array (Complex α))
    (hk : k < (butterflies n fe fo).size) :
    (butterflies n fe fo)[k] =
      if k < n / 2 then fe[k]!.add ((twiddle n k).mul fo[k]!)
      else fe[k - n / 2]!.sub ((twiddle n (k - n / 2)).mul fo[k - n / 2]!) := by
  simp only [size_butterflies] at hk
  split_ifs with hlo
  · simp [butterflies, Array.getElem_append_left, hlo]
  · simp [butterflies, Array.getElem_append_right, Nat.not_lt.mp hlo]

theorem size_of_fftWith_eq_some {fuel : ℕ} {data : Array α} {out : Array (Complex α)}
    (h : fftWith fuel data = some out) : out.size = data.size := by
  induction fuel generalizing data out with
  | zero =>
    by_cases h1 : data.size ≤ 1
    · rw [fftWith_of_size_le_one 0 h1, Option.some.injEq] at h
      rw [← h, Array.size_map]
    · simp [fftWith, h1] at h
  | succ fuel ih =>
    by_cases h1 : data.size ≤ 1
    · rw [fftWith_of_size_le_one _ h1, Option.some.injEq] at h
      rw [← h, Array.size_map]
    · cases hp : powerOfTwo data.size
      · rw [fftWith_succ_of_not_powerOfTwo fuel (by omega) hp] at h
        cases h
      · obtain ⟨fe, fo, -, -, rfl⟩ := (fftWith_succ_eq_some_iff (by omega) hp).mp h
        rw [size_butterflies, two_mul_half_of_powerOfTwo (by omega) hp]

theorem fftWith_isSome {m fuel : ℕ} {data : Array α} (hsize : data.size = 2 ^ m)
    (hfuel : m ≤ fuel) : (fftWith fuel data).isSome := by
  induction m generalizing fuel data with
  | zero => simp [fftWith_of_size_le_one fuel (by simp [hsize] : data.size ≤ 1)]
  | succ m ih =>
    obtain ⟨fuel, rfl⟩ : ∃ f, fuel = f + 1 := ⟨fuel - 1, by omega⟩
    have h1 : 1 < data.size := by rw [hsize]; exact Nat.one_lt_two_pow (by omega)
    have hp : powerOfTwo data.size = true := hsize ▸ powerOfTwo_two_pow _
    have hhalf : data.size / 2 = 2 ^ m := by
      rw [hsize, Nat.pow_succ, Nat.mul_div_cancel _ (by norm_num)]
    obtain ⟨fe, hfe⟩ := Option.isSome_iff_exists.mp
      (ih (by rw [size_evens, hhalf]) (by omega : m ≤ fuel) : (fftWith fuel (evens data)).isSome)
    obtain ⟨fo, hfo⟩ := Option.isSome_iff_exists.mp
      (ih (by rw [size_odds, hhalf]) (by omega : m ≤ fuel) : (fftWith fuel (odds data)).isSome)
    rw [Option.isSome_iff_exists]
    exact ⟨_, (fftWith_succ_eq_some_iff h1 hp).mpr ⟨fe, fo, hfe, hfo, rfl⟩⟩

theorem fft_eq_none_iff (data : Array α) :
    fft data = none ↔ 3 ≤ data.size ∧ ¬ data.size.isPowerOfTwo := by
  constructor
  · intro h
    have hsome : ¬ (fft data).isSome := by simp [h]
    by_cases hp : data.size.isPowerOfTwo
    · obtain ⟨m, hm⟩ := hp
      exact absurd (fftWith_isSome hm (by have : m < 2 ^ m := Nat.lt_two_pow_self; omega)) hsome
    · refine ⟨?_, hp⟩
      by_contra hlt
      interval_cases hs : data.size
      · exact hsome (by simp [fft, fftWith_of_size_le_one _ (by omega : data.size ≤ 1)])
      · exact hsome (by simp [fft, fftWith_of_size_le_one _ (by omega : data.size ≤ 1)])
      · exact hp ⟨1, rfl⟩
  · rintro ⟨h3, hp⟩
    have hbit : powerOfTwo data.size = false := by
      rw [← Bool.not_eq_true, powerOfTwo_iff (by omega)]
      exact hp
    exact fftWith_succ_of_not_powerOfTwo _ (by omega) hbit

end Shape

/-! ## Exact arithmetic -/

/-- The reals have π, absolute values, and no infinite or undefined values. -/
noncomputable instance : TransformNumber ℝ :=
  ⟨Real.pi, fun x => |x|, fun _ => false, fun _ => false⟩

open scoped Real
open Finset

@[simp] theorem TransformNumber.pi_real : (TransformNumber.pi : ℝ) = π := rfl

@[simp] theorem ofCount_real (n : ℕ) : (ofCount n : ℝ) = n := by
  simp [ofCount, NNRatCast.ofScientific_eq_ite]

namespace Complex

/-- A complex number of the model as a complex number. -/
def toC (z : Complex ℝ) : ℂ := ⟨z.re, z.im⟩

@[simp] theorem toC_re (z : Complex ℝ) : z.toC.re = z.re := rfl

@[simp] theorem toC_im (z : Complex ℝ) : z.toC.im = z.im := rfl

@[simp] theorem toC_add (a b : Complex ℝ) : (a.add b).toC = a.toC + b.toC :=
  Complex.ext (by simp [add]) (by simp [add])

@[simp] theorem toC_sub (a b : Complex ℝ) : (a.sub b).toC = a.toC - b.toC :=
  Complex.ext (by simp [sub]) (by simp [sub])

@[simp] theorem toC_mul (a b : Complex ℝ) : (a.mul b).toC = a.toC * b.toC :=
  Complex.ext (by simp [mul]) (by simp [mul])

theorem toC_unit (θ : ℝ) : (unit θ).toC = Complex.exp (θ * Complex.I) :=
  Complex.ext (by simp [unit, Complex.exp_ofReal_mul_I_re])
    (by simp [unit, Complex.exp_ofReal_mul_I_im])

end Complex

/-- The root of unity `e^{-2πi/n}` that a transform of length `n` turns by. -/
noncomputable def root (n : ℕ) : ℂ := Complex.exp (-(2 * π * Complex.I / n))

theorem root_pow_self {n : ℕ} (hn : n ≠ 0) : root n ^ n = 1 := by
  rw [root, ← Complex.exp_nat_mul]
  have harg : (n : ℂ) * -(2 * π * Complex.I / n) = -(2 * π * Complex.I) := by
    field_simp
  rw [harg, Complex.exp_neg, Complex.exp_two_pi_mul_I, inv_one]

theorem root_two_mul_sq (h : ℕ) : root (2 * h) ^ 2 = root h := by
  rw [root, root, ← Complex.exp_nat_mul]
  congr 1
  push_cast
  ring

theorem root_two_mul_pow_half {h : ℕ} (hh : h ≠ 0) : root (2 * h) ^ h = -1 := by
  rw [root, ← Complex.exp_nat_mul]
  have harg : (h : ℂ) * -(2 * π * Complex.I / ((2 * h : ℕ) : ℂ)) = -(π * Complex.I) := by
    push_cast
    field_simp
  rw [harg, Complex.exp_neg, Complex.exp_pi_mul_I]
  norm_num

theorem toC_twiddle {n : ℕ} (k : ℕ) : (twiddle n k : Complex ℝ).toC = root n ^ k := by
  rw [twiddle, Complex.toC_unit, root, ← Complex.exp_nat_mul]
  congr 1
  simp only [TransformNumber.pi_real, ofCount_real]
  push_cast
  norm_num
  ring

/-- The discrete Fourier transform of the first `n` terms of `x`, at frequency `k`. -/
noncomputable def dft (n : ℕ) (x : ℕ → ℂ) (k : ℕ) : ℂ :=
  ∑ j ∈ range n, x j * Complex.exp (-(2 * π * Complex.I * j * k / n))

theorem dft_eq_sum_root (n : ℕ) (x : ℕ → ℂ) (k : ℕ) :
    dft n x k = ∑ j ∈ range n, x j * root n ^ (j * k) := by
  refine sum_congr rfl fun j _ => ?_
  rw [root, ← Complex.exp_nat_mul]
  congr 2
  push_cast
  ring

theorem dft_congr {n : ℕ} {x y : ℕ → ℂ} (h : ∀ j < n, x j = y j) (k : ℕ) :
    dft n x k = dft n y k :=
  sum_congr rfl fun j hj => by rw [h j (mem_range.mp hj)]

theorem sum_range_two_mul {M : Type} [AddCommMonoid M] (f : ℕ → M) (h : ℕ) :
    ∑ j ∈ range (2 * h), f j =
      ∑ u ∈ range h, f (2 * u) + ∑ u ∈ range h, f (2 * u + 1) := by
  induction h with
  | zero => simp
  | succ h ih =>
    rw [show 2 * (h + 1) = 2 * h + 1 + 1 by ring, sum_range_succ, sum_range_succ, ih,
      sum_range_succ, sum_range_succ]
    abel

theorem dft_two_mul (h : ℕ) (x : ℕ → ℂ) (k : ℕ) :
    dft (2 * h) x k =
      dft h (fun u => x (2 * u)) k + root (2 * h) ^ k * dft h (fun u => x (2 * u + 1)) k := by
  simp only [dft_eq_sum_root, sum_range_two_mul, mul_sum]
  congr 1
  · refine sum_congr rfl fun u _ => ?_
    rw [show 2 * u * k = 2 * (u * k) by ring, pow_mul, root_two_mul_sq]
  · refine sum_congr rfl fun u _ => ?_
    rw [show (2 * u + 1) * k = 2 * (u * k) + k by ring, pow_add, pow_mul, root_two_mul_sq]
    ring

theorem dft_add_period (h : ℕ) (x : ℕ → ℂ) (k : ℕ) : dft h x (h + k) = dft h x k := by
  rcases Nat.eq_zero_or_pos h with rfl | hpos
  · simp [dft]
  · simp only [dft_eq_sum_root]
    refine sum_congr rfl fun u _ => ?_
    rw [show u * (h + k) = h * u + u * k by ring, pow_add, pow_mul, root_pow_self hpos.ne',
      one_pow, one_mul]

theorem fftWith_eq_dft {m fuel : ℕ} {data : Array ℝ} {out : Array (Complex ℝ)}
    (hsize : data.size = 2 ^ m) (h : fftWith fuel data = some out) (k : ℕ) (hk : k < out.size) :
    out[k].toC = dft data.size (fun j => data[j]!) k := by
  induction m generalizing fuel data out k with
  | zero =>
    rw [fftWith_of_size_le_one fuel (by simp [hsize]), Option.some.injEq] at h
    subst h
    have hk0 : k = 0 := by simp [hsize] at hk; omega
    subst hk0
    simp only [Array.getElem_map, hsize, dft, pow_zero, range_one, sum_singleton]
    exact Complex.ext (by simp [Complex.toC, getElem!_pos data 0 (by simp [hsize])])
      (by simp [Complex.toC]; norm_num)
  | succ m ih =>
    have h1 : 1 < data.size := by rw [hsize]; exact Nat.one_lt_two_pow (by omega)
    have hp : powerOfTwo data.size = true := hsize ▸ powerOfTwo_two_pow _
    have hhalf : data.size / 2 = 2 ^ m := by
      rw [hsize, Nat.pow_succ, Nat.mul_div_cancel _ (by norm_num)]
    have hn : data.size = 2 * 2 ^ m := by rw [hsize, Nat.pow_succ, Nat.mul_comm]
    obtain ⟨fuel, rfl⟩ : ∃ f, fuel = f + 1 := by
      cases fuel with
      | zero => simp [fftWith, Nat.not_le.mpr h1] at h
      | succ f => exact ⟨f, rfl⟩
    obtain ⟨fe, fo, hfe, hfo, rfl⟩ := (fftWith_succ_eq_some_iff h1 hp).mp h
    have hsfe : fe.size = 2 ^ m := by rw [size_of_fftWith_eq_some hfe, size_evens, hhalf]
    have hsfo : fo.size = 2 ^ m := by rw [size_of_fftWith_eq_some hfo, size_odds, hhalf]
    -- the halves' transforms, as transforms of the even and odd terms
    have he : ∀ k < 2 ^ m, fe[k]!.toC = dft (2 ^ m) (fun u => data[2 * u]!) k := fun k hk' => by
      rw [getElem!_pos fe k (by omega), ih (by rw [size_evens, hhalf]) hfe k (by omega),
        size_evens, hhalf]
      exact dft_congr (fun u hu => by rw [getElem!_evens (by omega)]) k
    have ho : ∀ k < 2 ^ m, fo[k]!.toC = dft (2 ^ m) (fun u => data[2 * u + 1]!) k :=
      fun k hk' => by
      rw [getElem!_pos fo k (by omega), ih (by rw [size_odds, hhalf]) hfo k (by omega),
        size_odds, hhalf]
      exact dft_congr (fun u hu => by rw [getElem!_odds (by omega)]) k
    have hsplit : dft data.size (fun j => data[j]!) k =
        dft (2 ^ m) (fun u => data[2 * u]!) k +
          root (2 * 2 ^ m) ^ k * dft (2 ^ m) (fun u => data[2 * u + 1]!) k := by
      rw [hn, dft_two_mul]
    rw [hsplit]
    rcases Nat.lt_or_ge k (2 ^ m) with hlo | hhi
    · -- the sums fill the first half
      rw [getElem_butterflies, if_pos (by omega)]
      simp only [Complex.toC_add, Complex.toC_mul,
        toC_twiddle, he k hlo, ho k hlo]
      rw [hn]
    · -- the differences fill the second half, where the twiddle changes sign
      obtain ⟨k, rfl⟩ : ∃ k', k = 2 ^ m + k' := ⟨k - 2 ^ m, by omega⟩
      have hk' : k < 2 ^ m := by simp [hn] at hk; omega
      rw [getElem_butterflies, if_neg (by omega), hhalf, Nat.add_sub_cancel_left]
      simp only [Complex.toC_sub, Complex.toC_mul, toC_twiddle, he k hk', ho k hk',
        dft_add_period]
      rw [hn, pow_add, root_two_mul_pow_half (by positivity : 2 ^ m ≠ 0)]
      ring

theorem fft_eq_dft {m : ℕ} {data : Array ℝ} (hsize : data.size = 2 ^ m) :
    ∃ out, fft data = some out ∧ out.size = data.size ∧
      ∀ k (hk : k < out.size), out[k].toC = dft data.size (fun j => data[j]!) k := by
  have hfuel : m ≤ data.size + 1 := by
    have : m < 2 ^ m := Nat.lt_two_pow_self
    omega
  obtain ⟨out, hout⟩ := Option.isSome_iff_exists.mp (fftWith_isSome hsize hfuel)
  exact ⟨out, hout, size_of_fftWith_eq_some hout, fftWith_eq_dft hsize hout⟩

end Multibody.Analysis
