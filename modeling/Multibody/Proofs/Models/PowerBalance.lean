import Multibody.Models.Pendulum
import Mathlib

/-!
# Power balance of the closed-form pendulums

Over the reals each model's energy changes along its own vector field
(`ChangesAt`) at the power of its non-conservative forces: `τ·ω - c·ω²` for
the simple pendulum; for the double pendulum `τ` times `∂E/∂ω₁` over
`l₁ (m₁ + m₂ sin² Δ)`, conserved when `τ = 0`.
-/

namespace Multibody

noncomputable instance : CircularFunctions ℝ := ⟨Real.sin, Real.cos⟩

@[simp] theorem CircularFunctions.sin_real (x : ℝ) : CircularFunctions.sin x = Real.sin x := rfl

@[simp] theorem CircularFunctions.cos_real (x : ℝ) : CircularFunctions.cos x = Real.cos x := rfl

/-- `E` changes at rate `r` as the state leaves `x` with velocity `v`: along
the line `x + s·v` it is a function of `s` whose derivative at `0` is `r`. -/
def ChangesAt (E : Array ℝ → Except Fault ℝ) (x v : Array ℝ) (r : ℝ) : Prop :=
  ∃ e : ℝ → ℝ, (∀ s, E (Array.zipWith (fun a b => a + s * b) x v) = .ok (e s)) ∧ HasDerivAt e r 0

theorem hasDerivAt_line (a b : ℝ) : HasDerivAt (fun s : ℝ => a + s * b) b 0 :=
  (((hasDerivAt_id (0 : ℝ)).mul_const b).const_add a).congr_deriv (one_mul b)

theorem hasDerivAt_cos_line (a b : ℝ) :
    HasDerivAt (fun s : ℝ => Real.cos (a + s * b)) (-Real.sin a * b) 0 :=
  (hasDerivAt_line a b).cos.congr_deriv (by rw [zero_mul, add_zero])

theorem line_pair (x₁ x₂ v₁ v₂ s : ℝ) :
    Array.zipWith (fun a b => a + s * b) #[x₁, x₂] #[v₁, v₂] = #[x₁ + s * v₁, x₂ + s * v₂] := by
  simp

theorem line_four (x₁ x₂ x₃ x₄ v₁ v₂ v₃ v₄ s : ℝ) :
    Array.zipWith (fun a b => a + s * b) #[x₁, x₂, x₃, x₄] #[v₁, v₂, v₃, v₄] =
      #[x₁ + s * v₁, x₂ + s * v₂, x₃ + s * v₃, x₄ + s * v₄] := by
  simp

theorem ofScientific_two : (2.0 : ℝ) = 2 := by norm_num

theorem cos_sub_comm (a b : ℝ) : Real.cos (a - b) = Real.cos (b - a) := by
  rw [← Real.cos_neg, neg_sub]

theorem sin_sub_comm (a b : ℝ) : Real.sin (a - b) = -Real.sin (b - a) := by
  rw [← Real.sin_neg, neg_sub]

/-! ## The simple pendulum -/

namespace Pendulum

variable (p : Pendulum ℝ)

theorem derive_pair (θ ω τ t : ℝ) :
    p.derive #[θ, ω] #[τ] t = .ok #[ω,
      (-p.damping * ω - p.mass * p.gravity * p.length * Real.sin θ + τ) /
        (p.mass * p.length * p.length)] := rfl

theorem energy_pair (θ ω : ℝ) :
    p.energy #[θ, ω] =
      .ok (0.5 * p.mass * p.length * p.length * ω * ω + -p.mass * p.gravity * p.length * Real.cos θ) :=
  rfl

theorem energy_rate (hm : p.mass ≠ 0) (hl : p.length ≠ 0) (θ ω τ t : ℝ) :
    ∃ v, p.derive #[θ, ω] #[τ] t = .ok v ∧
      ChangesAt p.energy #[θ, ω] v (τ * ω - p.damping * ω ^ 2) := by
  set α := (-p.damping * ω - p.mass * p.gravity * p.length * Real.sin θ + τ) /
    (p.mass * p.length * p.length) with hα
  -- kinetic part: `½ m L² ω²` along the line; potential part: `-m g L cos θ`
  have hke := ((hasDerivAt_line ω α).mul (hasDerivAt_line ω α)).const_mul
    (0.5 * p.mass * p.length * p.length)
  have hpe := (hasDerivAt_cos_line θ ω).const_mul (-p.mass * p.gravity * p.length)
  refine ⟨#[ω, α], derive_pair p θ ω τ t, _, fun s => ?_, (hke.add hpe).congr_deriv ?_⟩
  · rw [line_pair, energy_pair, Except.ok.injEq]
    simp only [Pi.add_apply, Pi.mul_apply]
    ring
  · rw [hα]
    field_simp
    ring

end Pendulum

/-! ## The double pendulum -/

namespace DoublePendulum

variable (d : DoublePendulum ℝ)

theorem derive_four (θ₁ θ₂ ω₁ ω₂ τ t : ℝ) :
    d.derive #[θ₁, θ₂, ω₁, ω₂] #[τ] t = .ok #[ω₁, ω₂,
      (d.m2 * d.l1 * ω₁ * ω₁ * Real.sin (θ₂ - θ₁) * Real.cos (θ₂ - θ₁) +
          d.m2 * d.gravity * Real.sin θ₂ * Real.cos (θ₂ - θ₁) +
          d.m2 * d.l2 * ω₂ * ω₂ * Real.sin (θ₂ - θ₁) -
          (d.m1 + d.m2) * d.gravity * Real.sin θ₁ + τ) /
        ((d.m1 + d.m2) * d.l1 - d.m2 * d.l1 * Real.cos (θ₂ - θ₁) * Real.cos (θ₂ - θ₁)),
      (-d.m2 * d.l2 * ω₂ * ω₂ * Real.sin (θ₂ - θ₁) * Real.cos (θ₂ - θ₁) +
          (d.m1 + d.m2) * d.gravity * Real.sin θ₁ * Real.cos (θ₂ - θ₁) -
          (d.m1 + d.m2) * d.l1 * ω₁ * ω₁ * Real.sin (θ₂ - θ₁) -
          (d.m1 + d.m2) * d.gravity * Real.sin θ₂) /
        (d.l2 / d.l1 *
          ((d.m1 + d.m2) * d.l1 - d.m2 * d.l1 * Real.cos (θ₂ - θ₁) * Real.cos (θ₂ - θ₁)))] := rfl

theorem energy_four (θ₁ θ₂ ω₁ ω₂ : ℝ) :
    d.energy #[θ₁, θ₂, ω₁, ω₂] =
      .ok (0.5 * d.m1 * (d.l1 * d.l1 * ω₁ * ω₁) +
        0.5 * d.m2 * (d.l1 * d.l1 * ω₁ * ω₁ + d.l2 * d.l2 * ω₂ * ω₂ +
          2.0 * d.l1 * d.l2 * ω₁ * ω₂ * Real.cos (θ₁ - θ₂)) +
        (d.m1 * d.gravity * (-d.l1 * Real.cos θ₁) +
          d.m2 * d.gravity * (-d.l1 * Real.cos θ₁ - d.l2 * Real.cos θ₂))) := rfl

theorem den_eq (δ : ℝ) :
    (d.m1 + d.m2) * d.l1 - d.m2 * d.l1 * Real.cos δ * Real.cos δ =
      d.l1 * (d.m1 + d.m2 * Real.sin δ ^ 2) := by
  rw [Real.sin_sq]
  ring

theorem energy_rate (h₁ : 0 < d.m1) (h₂ : 0 < d.m2) (hl₁ : 0 < d.l1) (hl₂ : 0 < d.l2)
    (θ₁ θ₂ ω₁ ω₂ τ t : ℝ) :
    ∃ v, d.derive #[θ₁, θ₂, ω₁, ω₂] #[τ] t = .ok v ∧
      ChangesAt d.energy #[θ₁, θ₂, ω₁, ω₂] v
        (τ * ((d.m1 + d.m2) * d.l1 ^ 2 * ω₁ + d.m2 * d.l1 * d.l2 * ω₂ * Real.cos (θ₁ - θ₂)) /
          (d.l1 * (d.m1 + d.m2 * Real.sin (θ₁ - θ₂) ^ 2))) := by
  obtain ⟨α₁, α₂, hv, hα₁, hα₂⟩ : ∃ α₁ α₂, d.derive #[θ₁, θ₂, ω₁, ω₂] #[τ] t = .ok #[ω₁, ω₂, α₁, α₂] ∧
      α₁ = (d.m2 * d.l1 * ω₁ * ω₁ * Real.sin (θ₂ - θ₁) * Real.cos (θ₂ - θ₁) +
          d.m2 * d.gravity * Real.sin θ₂ * Real.cos (θ₂ - θ₁) +
          d.m2 * d.l2 * ω₂ * ω₂ * Real.sin (θ₂ - θ₁) -
          (d.m1 + d.m2) * d.gravity * Real.sin θ₁ + τ) /
        ((d.m1 + d.m2) * d.l1 - d.m2 * d.l1 * Real.cos (θ₂ - θ₁) * Real.cos (θ₂ - θ₁)) ∧
      α₂ = (-d.m2 * d.l2 * ω₂ * ω₂ * Real.sin (θ₂ - θ₁) * Real.cos (θ₂ - θ₁) +
          (d.m1 + d.m2) * d.gravity * Real.sin θ₁ * Real.cos (θ₂ - θ₁) -
          (d.m1 + d.m2) * d.l1 * ω₁ * ω₁ * Real.sin (θ₂ - θ₁) -
          (d.m1 + d.m2) * d.gravity * Real.sin θ₂) /
        (d.l2 / d.l1 *
          ((d.m1 + d.m2) * d.l1 - d.m2 * d.l1 * Real.cos (θ₂ - θ₁) * Real.cos (θ₂ - θ₁))) :=
    ⟨_, _, derive_four d θ₁ θ₂ ω₁ ω₂ τ t, rfl, rfl⟩
  -- the energy along the line, term by term: kinetic energy of the two masses,
  -- the coupling through `cos (θ₁ - θ₂)`, and the heights of the masses
  have hΩ₁ := hasDerivAt_line ω₁ α₁
  have hΩ₂ := hasDerivAt_line ω₂ α₂
  have hcos := ((hasDerivAt_line θ₁ ω₁).sub (hasDerivAt_line θ₂ ω₂)).cos
  have hke₁ := (hΩ₁.mul hΩ₁).const_mul (0.5 * d.m1 * (d.l1 * d.l1))
  have hke₂ := (((hΩ₁.mul hΩ₁).const_mul (d.l1 * d.l1)).add ((hΩ₂.mul hΩ₂).const_mul (d.l2 * d.l2))
    |>.add (((hΩ₁.mul hΩ₂).mul hcos).const_mul (2 * d.l1 * d.l2))).const_mul (0.5 * d.m2)
  have hpe := ((hasDerivAt_cos_line θ₁ ω₁).const_mul (-(d.m1 + d.m2) * d.gravity * d.l1)).add
    ((hasDerivAt_cos_line θ₂ ω₂).const_mul (-d.m2 * d.gravity * d.l2))
  refine ⟨_, hv, _, fun s => ?_, ((hke₁.add hke₂).add hpe).congr_deriv ?_⟩
  · rw [line_four, energy_four, Except.ok.injEq, ofScientific_two]
    simp only [Pi.add_apply, Pi.sub_apply, Pi.mul_apply]
    ring
  · -- in the atoms `sin Δ`, `cos Δ`, `sin θᵢ` the balance is an identity of
    -- rational functions once the denominator is written as the code has it
    have hden := den_eq d (θ₂ - θ₁)
    have hfac : 0 < d.m1 + d.m2 - d.m2 * Real.cos (θ₂ - θ₁) ^ 2 := by
      nlinarith [Real.cos_sq_le_one (θ₂ - θ₁)]
    simp only [Pi.sub_apply, Pi.mul_apply, zero_mul, add_zero]
    rw [hα₁, hα₂, cos_sub_comm θ₁ θ₂, sin_sub_comm θ₁ θ₂, neg_sq, ← hden]
    field_simp
    ring

end DoublePendulum

/-! ## Both closed forms -/

/-- Over the reals, the energy of each closed form changes along its vector
field at the power of its non-conservative forces: `τ ω - c ω²` for the
pendulum, and for the double pendulum `τ` times the upper angular momentum
over `l₁ (m₁ + m₂ sin² Δ)`, which is zero with the torque. -/
theorem closed_forms_power_balance (p : Pendulum ℝ) (d : DoublePendulum ℝ)
    (hm : p.mass ≠ 0) (hl : p.length ≠ 0)
    (h₁ : 0 < d.m1) (h₂ : 0 < d.m2) (hl₁ : 0 < d.l1) (hl₂ : 0 < d.l2)
    (τ t θ ω θ₁ θ₂ ω₁ ω₂ : ℝ) :
    (∃ v, p.derive #[θ, ω] #[τ] t = .ok v ∧
      ChangesAt p.energy #[θ, ω] v (τ * ω - p.damping * ω ^ 2)) ∧
    (∃ v, d.derive #[θ₁, θ₂, ω₁, ω₂] #[τ] t = .ok v ∧
      ChangesAt d.energy #[θ₁, θ₂, ω₁, ω₂] v
        (τ * ((d.m1 + d.m2) * d.l1 ^ 2 * ω₁ + d.m2 * d.l1 * d.l2 * ω₂ * Real.cos (θ₁ - θ₂)) /
          (d.l1 * (d.m1 + d.m2 * Real.sin (θ₁ - θ₂) ^ 2)))) :=
  ⟨p.energy_rate hm hl θ ω τ t, d.energy_rate h₁ h₂ hl₁ hl₂ θ₁ θ₂ ω₁ ω₂ τ t⟩

/-- The unit pendulums under a unit torque.  The double pendulum, hanging
straight with both rods turning at one radian per second, gains energy at
`(2 + 1) / 1 = 3` where the torque's power `τ ω₁` is `1`. -/
theorem unit_pendulums_power_balance :
    (({} : Pendulum ℝ).mass ≠ 0 ∧ ({} : Pendulum ℝ).length ≠ 0 ∧
      0 < ({} : DoublePendulum ℝ).m1 ∧ 0 < ({} : DoublePendulum ℝ).m2 ∧
      0 < ({} : DoublePendulum ℝ).l1 ∧ 0 < ({} : DoublePendulum ℝ).l2) ∧
    (∃ v, ({} : Pendulum ℝ).derive #[1, 1] #[1] 0 = .ok v ∧
      ChangesAt ({} : Pendulum ℝ).energy #[1, 1] v (1 * 1 - ({} : Pendulum ℝ).damping * 1 ^ 2)) ∧
    (∃ v, ({} : DoublePendulum ℝ).derive #[0, 0, 1, 1] #[1] 0 = .ok v ∧
      ChangesAt ({} : DoublePendulum ℝ).energy #[0, 0, 1, 1] v
        (1 * ((({} : DoublePendulum ℝ).m1 + ({} : DoublePendulum ℝ).m2) *
            ({} : DoublePendulum ℝ).l1 ^ 2 * 1 +
          ({} : DoublePendulum ℝ).m2 * ({} : DoublePendulum ℝ).l1 * ({} : DoublePendulum ℝ).l2 * 1 *
            Real.cos (0 - 0)) /
          (({} : DoublePendulum ℝ).l1 *
            (({} : DoublePendulum ℝ).m1 + ({} : DoublePendulum ℝ).m2 * Real.sin (0 - 0) ^ 2)))) := by
  have hp : ({} : Pendulum ℝ).mass ≠ 0 ∧ ({} : Pendulum ℝ).length ≠ 0 := by norm_num
  have hd : 0 < ({} : DoublePendulum ℝ).m1 ∧ 0 < ({} : DoublePendulum ℝ).m2 ∧
      0 < ({} : DoublePendulum ℝ).l1 ∧ 0 < ({} : DoublePendulum ℝ).l2 := by norm_num
  exact ⟨⟨hp.1, hp.2, hd⟩, closed_forms_power_balance {} {} hp.1 hp.2 hd.1 hd.2.1 hd.2.2.1 hd.2.2.2
    1 0 1 1 0 0 1 1⟩

end Multibody
