import Mathlib
import Multibody.Dynamics.Integrator
import Multibody.Proofs.Dynamics.Elimination
/-!
# The integrators on a pure derivative

A derivative that reads only the state and the control, `fun y v _ => .ok (F y v)`,
is what the joint-space backend hands its integrator.  On such a derivative
each scheme computes its textbook formula: this module writes the three
formulas as `Integrator.scheme` and proves that `Integrator.step` returns
exactly that, for every state, control, time and step.  The schemes keep no
buffers between steps, so no earlier step can change a later one.

The loops of the two Euler schemes are opened with the list form of
`for … in [0:n]`: a left fold in `Except` over `List.range'`.
-/

namespace Multibody

/-- `x + h · k`, componentwise, as far as both go. -/
def State.axpy (x k : State) (h : Float) : State :=
  Array.zipWith (fun xi ki => xi + h * ki) x k

/-- The weighted slope of a Runge–Kutta step, `k1 + 2 k2 + 2 k3 + k4`, summed
in the order the step sums it. -/
def State.rk4Slope (k1 k2 k3 k4 : State) : State :=
  Array.zipWith (· + ·)
    (Array.zipWith (fun s c => s + 2.0 * c) (Array.zipWith (fun a b => a + 2.0 * b) k1 k2) k3) k4

theorem State.size_axpy {x k : State} (h : x.size ≤ k.size) (c : Float) :
    (State.axpy x k c).size = x.size := by
  simp [State.axpy]
  omega

namespace Integrator

/-- The formula each scheme computes on a derivative `F` of the state and
control: `x + dt·F(x)`; for semi-implicit Euler on `x = [q, v]` with
`F(x) = [_, a]`, `[q + dt·v', v']` with `v' = v + dt·a`; and the classical
Runge–Kutta step. -/
def scheme : Integrator → (State → Array Float → State) → State → Array Float → Float → State
  | euler, F, x, u, dt => State.axpy x (F x u) dt
  | symplectic, F, x, u, dt =>
    let half := x.size / 2
    let v' := State.axpy (x.extract half x.size) ((F x u).extract half x.size) dt
    State.axpy (x.extract 0 half) v' dt ++ v'
  | rk4, F, x, u, dt =>
    let k1 := F x u
    let k2 := F (State.axpy x k1 (dt * 0.5)) u
    let k3 := F (State.axpy x k2 (dt * 0.5)) u
    let k4 := F (State.axpy x k3 dt) u
    State.axpy x (State.rk4Slope k1 k2 k3 k4) (dt / 6.0)

theorem getD_eq_getElem! {xs : Array Float} {i : Nat} (h : i < xs.size) : xs.getD i 0.0 = xs[i]! := by
  rw [getElem!_pos xs i h, Array.getD_eq_getD_getElem?, Array.getElem?_eq_getElem h]
  rfl

/-! ## Explicit Euler -/

theorem foldlM_push_at (dx : Array Float) (g : Nat → Float → Float) (s len : Nat)
    (h : s + len ≤ dx.size) (r : Array Float) :
    (List.range' s len).foldlM (fun r i => (fun d => r.push (g i d)) <$> Fault.at dx i) r =
      .ok (r ++ ((List.range' s len).map fun i => g i dx[i]!).toArray) := by
  induction len generalizing s r with
  | zero => simp; rfl
  | succ len ih =>
    rw [List.range'_succ, List.foldlM_cons, Dynamics.at_of_lt 0.0 (by omega)]
    show List.foldlM _ (r.push (g s (dx.getD s 0.0))) _ = _
    rw [ih (s + 1) (by omega), getD_eq_getElem! (by omega)]
    simp

theorem eulerStep_pure (F : State → Array Float → State) (x : State) (u : Array Float) (t dt : Float)
    (h : x.size ≤ (F x u).size) :
    eulerStep (fun y v _ => .ok (F y v)) x u t dt = .ok (State.axpy x (F x u) dt) := by
  simp only [eulerStep, Std.Legacy.Range.forIn_eq_forIn_range', bind_pure_comp,
    List.forIn_yield_eq_foldlM, Std.Legacy.Range.size]
  rw [show (x.size - 0 + 1 - 1) / 1 = x.size by omega, Dynamics.ok_bind,
    foldlM_push_at (F x u) (fun i d => x[i]! + dt * d) 0 x.size (by omega), Dynamics.ok_bind]
  congr 1
  apply Array.ext
  · simp [State.axpy]
    omega
  · intro i hi _
    simp at hi
    simp [State.axpy, getElem!_pos x i hi, getElem!_pos (F x u) i (by omega)]

/-! ## Semi-implicit Euler -/

section Symplectic

variable (x dx : State) (dt : Float)

/-- The new velocity of the `j`-th coordinate. -/
def newVelocity (j : Nat) : Float := x[x.size / 2 + j]! + dt * dx[x.size / 2 + j]!

/-- The new position of the `j`-th coordinate, moved by its new velocity. -/
def newPosition (j : Nat) : Float := x[j]! + dt * newVelocity x dx dt j

theorem symplectic_rounds (h : x.size ≤ dx.size) :
    ∃ y, (List.range' 0 (x.size / 2)).foldlM
        (fun out k => (fun d => (out.set! (x.size / 2 + k) (x[x.size / 2 + k]! + dt * d)).set! k
          (x[k]! + dt * (x[x.size / 2 + k]! + dt * d))) <$> Fault.at dx (x.size / 2 + k))
        (Array.replicate x.size 0.0) = .ok y ∧
      y.size = x.size ∧ ∀ j (hj : j < y.size), y[j] =
        if j < x.size / 2 then newPosition x dx dt j
        else if j - x.size / 2 < x.size / 2 then newVelocity x dx dt (j - x.size / 2) else 0.0 := by
  set half := x.size / 2 with hhalf
  let spec : Nat → Nat → Float := fun k j =>
    if j < k then newPosition x dx dt j
    else if half ≤ j ∧ j - half < k then newVelocity x dx dt (j - half) else 0.0
  obtain ⟨y, hy, hsize, hval⟩ := Dynamics.foldlM_range'_inv
    (fun k (out : Array Float) => out.size = x.size ∧ ∀ j (hj : j < out.size), out[j] = spec k j)
    (fun out k => (fun d => (out.set! (half + k) (x[half + k]! + dt * d)).set! k
      (x[k]! + dt * (x[half + k]! + dt * d))) <$> Fault.at dx (half + k))
    0 half (Array.replicate x.size 0.0) ⟨by simp, fun j hj => by simp [spec]⟩ (by
      intro k out _ hk ⟨hsz, hout⟩
      refine ⟨_, by rw [Dynamics.at_of_lt 0.0 (by omega)]; rfl, ?_⟩
      simp only [getD_eq_getElem! (show half + k < dx.size by omega), Array.set!_eq_setIfInBounds]
      refine ⟨by simp [hsz], fun j hj => ?_⟩
      have hj' : j < out.size := by simpa using hj
      rw [Array.getElem_setIfInBounds (by simpa using hj'), Array.getElem_setIfInBounds hj']
      -- the round writes position `k` and velocity `half + k`, and keeps the rest
      by_cases hjk : k = j
      · simp [hjk, spec, newPosition, newVelocity, ← hhalf]
      by_cases hjh : half + k = j
      · have hc : ¬ j < k + 1 := by omega
        simp [hjk, hjh, hc, spec, newVelocity, ← hhalf]
        rw [if_pos (by omega), show half + (j - half) = j by omega]
      · rw [if_neg hjk, if_neg hjh, hout j hj']
        simp only [spec]
        split_ifs <;> first | rfl | omega)
  refine ⟨y, hy, hsize, fun j hj => ?_⟩
  rw [hval j hj]
  simp only [spec, Nat.zero_add]
  split_ifs <;> first | rfl | omega

end Symplectic

theorem symplecticStep_pure (F : State → Array Float → State) (x : State) (u : Array Float)
    (t dt : Float) (heven : x.size % 2 = 0) (h : x.size ≤ (F x u).size) :
    symplecticStep (fun y v _ => .ok (F y v)) x u t dt = .ok (scheme .symplectic F x u dt) := by
  simp only [symplecticStep, Std.Legacy.Range.forIn_eq_forIn_range', bind_pure_comp,
    List.forIn_yield_eq_foldlM, Std.Legacy.Range.size]
  obtain ⟨y, hy, hsize, hval⟩ := symplectic_rounds x (F x u) dt h
  rw [show (x.size / 2 - 0 + 1 - 1) / 1 = x.size / 2 by omega, Dynamics.ok_bind, hy, Dynamics.ok_bind]
  show Except.ok y = _
  congr 1
  have hQ : (State.axpy (x.extract 0 (x.size / 2)) (State.axpy (x.extract (x.size / 2) x.size)
      ((F x u).extract (x.size / 2) x.size) dt) dt).size = x.size / 2 := by
    simp [State.axpy]
    omega
  apply Array.ext
  · simp [scheme, State.axpy, hsize]
    omega
  · intro j hj _
    rw [hval j hj]
    simp only [scheme, Array.getElem_append, hQ]
    by_cases hjh : j < x.size / 2
    · -- a position: the first half of the formula
      rw [dif_pos hjh, if_pos hjh]
      simp [newPosition, newVelocity, State.axpy, getElem!_pos x j (by omega),
        getElem!_pos x (x.size / 2 + j) (by omega), getElem!_pos (F x u) (x.size / 2 + j) (by omega)]
    · -- a velocity: the second half, which an even length fills
      have hidx : x.size / 2 + (j - x.size / 2) = j := by omega
      rw [dif_neg hjh, if_neg hjh, if_pos (by omega)]
      simp only [newVelocity, hidx, State.axpy, Array.getElem_zipWith, Array.getElem_extract,
        getElem!_pos x j (by omega), getElem!_pos (F x u) j (by omega)]

/-! ## Runge–Kutta -/

theorem fit_of_size {xs : Array Float} {n : Nat} (h : xs.size = n) : fit xs n = xs := by
  subst h
  apply Array.ext
  · simp [fit]
  · intro i _ hi
    simp [fit, Array.getD_eq_getD_getElem?, Array.getElem?_eq_getElem hi]

theorem map_range_eq_axpy {x k : State} (h : k.size = x.size) (c : Float) :
    (Array.range x.size).map (fun i => x[i]! + c * k[i]!) = State.axpy x k c := by
  apply Array.ext
  · simp [State.axpy, h]
  · intro i hi _
    simp at hi
    simp [State.axpy, getElem!_pos x i hi, getElem!_pos k i (by omega)]

theorem rk4Step_pure (F : State → Array Float → State) (x : State) (u : Array Float) (t dt : Float)
    (hF : ∀ y : State, y.size = x.size → (F y u).size = x.size) :
    rk4Step (fun y v _ => .ok (F y v)) x u t dt = .ok (scheme .rk4 F x u dt) := by
  simp only [rk4Step, Dynamics.ok_bind]
  -- each stage reads a slope of the state's length, so no stage pads or cuts
  have hk1 : (F x u).size = x.size := hF x rfl
  rw [fit_of_size hk1, map_range_eq_axpy hk1]
  have hk2 := hF _ (State.size_axpy hk1.ge (dt * 0.5))
  rw [fit_of_size hk2, map_range_eq_axpy hk2]
  have hk3 := hF _ (State.size_axpy hk2.ge (dt * 0.5))
  rw [fit_of_size hk3, map_range_eq_axpy hk3]
  have hk4 := hF _ (State.size_axpy hk3.ge dt)
  rw [fit_of_size hk4]
  simp only [scheme]
  generalize F x u = k1 at *
  generalize F (State.axpy x k1 (dt * 0.5)) u = k2 at *
  generalize F (State.axpy x k2 (dt * 0.5)) u = k3 at *
  generalize F (State.axpy x k3 dt) u = k4 at *
  show Except.ok _ = Except.ok _
  congr 1
  apply Array.ext
  · simp [State.axpy, State.rk4Slope, hk1, hk2, hk3, hk4]
  · intro i hi _
    simp at hi
    simp [State.axpy, State.rk4Slope, getElem!_pos x i hi, getElem!_pos k1 i (by omega),
      getElem!_pos k2 i (by omega), getElem!_pos k3 i (by omega), getElem!_pos k4 i (by omega)]

/-- On a derivative of the state and control alone that keeps the state's
length, every scheme computes its formula; semi-implicit Euler asks for a
state of positions and velocities, of even length. -/
theorem step_pure (integ : Integrator) (F : State → Array Float → State) (x : State)
    (u : Array Float) (t dt : Float) (hF : ∀ y : State, y.size = x.size → (F y u).size = x.size)
    (heven : integ = .symplectic → x.size % 2 = 0) :
    integ.step (fun y v _ => .ok (F y v)) x u t dt = .ok (integ.scheme F x u dt) := by
  cases integ with
  | euler => exact eulerStep_pure F x u t dt (hF x rfl).ge
  | symplectic => exact symplecticStep_pure F x u t dt (heven rfl) (hF x rfl).ge
  | rk4 => exact rk4Step_pure F x u t dt hF

end Integrator

end Multibody
