import Multibody.Proofs.Control.Calls
import Multibody.Proofs.Lifecycle.TimeRange

/-!
# Failed and finished controllers along a run

A controller's slot starts a run running; a call that fails or finishes
stops it, and a failure also marks it and holds the body's efforts
(`Multibody.Proofs.Control.Calls`).  Along a whole run nothing else touches
that state, so what a call decided stays decided (`ControlsFollow`): a slot
that stopped is never called again, a failed one stays failed, held efforts
stay as the first failure held them, and no controller is initialized or
stopped while the run goes (`loop_controlsFollow`).

A run whose time range lasts while its controllers do ends after the first
step at whose end no slot of any body runs (`loop_of_activeControl`).
-/

namespace Multibody.Control.Controller

/-- How often a controller was initialized, and stopped. -/
def tally (c : Controller) : Nat × Nat := (c.inits, c.stops)

@[simp] theorem tally_input (c : Controller) (a : Assembly) : (c.input a).tally = c.tally := by
  unfold input
  split <;> rfl

theorem tally_of_control {c c' : Controller} {env : Env} {r : Option Failure}
    (h : c.control env = .ok (c', r)) : c'.tally = c.tally := by
  unfold control at h
  dsimp only at h
  split at h
  · cases h
    rfl
  · cases h
    rfl
  · split at h <;> split at h <;> cases h <;> rfl
  · split at h <;> cases h <;> rfl
  · -- a scripted controller breaks down, fails, finishes or goes on
    split at h
    · cases h
    · split at h
      · cases h
        rfl
      · split at h <;> cases h <;> rfl

theorem tally_of_prepare {c c' : Controller} {a : Assembly} {b : BodyId} {env : Env} {ok : Bool}
    (h : c.prepare a b env = .ok (c', ok)) : c'.tally = c.tally := by
  unfold prepare at h
  dsimp only at h
  split at h
  · cases h
    rfl
  · split at h <;> cases h <;> rfl
  · cases h
    rfl
  · split at h
    · cases h
      rfl
    · split at h <;> cases h <;> rfl
  · split at h
    · cases h
    · cases h
      rfl

end Multibody.Control.Controller

namespace Multibody.Sim

variable {τ σ : Type}

open Control (Controller)

theorem tally_callResult (c : Controller) (env : Control.Env) :
    (callResult c (c.control env)).tally = c.tally := by
  cases hr : c.control env with
  | error => rfl
  | ok p => exact Controller.tally_of_control hr

namespace Lab

/-- What a lab holds of its controllers: each body's slots, held efforts and
whether it holds them, and how often each controller was initialized and
stopped. -/
def controls (lab : Lab τ σ) : Array (Array ControllerSlot × Array Float × Bool) × Array (Nat × Nat) :=
  (lab.run.bodies.map SimBody.controls, lab.controllers.map Controller.tally)

variable (lab : Lab τ σ)

theorem controls_withCalled (env : Control.Env) (idx : Nat) : (lab.withCalled env idx).controls = lab.controls := by
  unfold controls withCalled called callOf
  refine Prod.ext rfl ?_
  show (lab.controllers.set! idx _).map Controller.tally = lab.controllers.map Controller.tally
  apply Array.ext (by simp)
  intro i h₁ h₂
  simp only [Array.getElem_map, Array.set!_eq_setIfInBounds]
  rw [Array.getElem_setIfInBounds]
  split
  · rename_i hi
    subst hi
    rw [tally_callResult, Controller.tally_input, Array.getD_eq_getD_getElem?,
      Array.getElem?_eq_getElem (by simpa using h₂)]
    rfl
  · rfl

end Lab

theorem controls_stepView : StepView (Lab.controls (τ := τ) (σ := σ)) where
  erase lab := by
    unfold Lab.controls
    simp [Run.erase, Function.comp_def, SimBody.controls]
  withAssembly _ _ := rfl
  modifySim lab f hf := by
    unfold Lab.controls Lab.modifySim Lab.run
    simp [hf]
  modifyRun lab f hf := by
    unfold Lab.controls Lab.modifyRun Lab.modifySim Lab.run
    cases hr : lab.sim.run with
    | none => simp [hr]
    | some r => simp [hr, (hf r).2.2]

/-- A driver whose hooks and observers leave the controller state alone. -/
def Handlers.KeepsControls (h : Handlers τ σ) : Prop :=
  (∀ id task (lab : Lab τ σ), (h.hook id task lab).1.controls = lab.controls) ∧
    ∀ ev (lab : Lab τ σ), (h.event ev lab).controls = lab.controls

namespace Lab

variable (lab : Lab τ σ)

/-- What calls of controllers can make of a lab's controller state: no body
or slot comes or goes and no slot changes controller, a slot that stopped
stays stopped and one that failed stays failed, held efforts stay as they
were first held, and no controller is initialized or stopped. -/
structure ControlsFollow (lab lab' : Lab τ σ) : Prop where
  size : lab'.run.bodies.size = lab.run.bodies.size
  slots : ∀ k, (lab'.simBody k).slots.size = (lab.simBody k).slots.size
  controller : ∀ k si, (lab'.slotAt k si).controller = (lab.slotAt k si).controller
  running : ∀ k si, (lab'.slotAt k si).running = true → (lab.slotAt k si).running = true
  failed : ∀ k si, (lab.slotAt k si).failed = true → (lab'.slotAt k si).failed = true
  frozen : ∀ k, (lab.simBody k).isFrozen = true →
    (lab'.simBody k).isFrozen = true ∧ (lab'.simBody k).frozen = (lab.simBody k).frozen
  tallies : lab'.controllers.map Controller.tally = lab.controllers.map Controller.tally

namespace ControlsFollow

theorem refl : ControlsFollow lab lab :=
  ⟨rfl, fun _ => rfl, fun _ _ => rfl, fun _ _ h => h, fun _ _ h => h, fun _ h => ⟨h, rfl⟩, rfl⟩

theorem trans {l₁ l₂ l₃ : Lab τ σ} (h₁ : ControlsFollow l₁ l₂) (h₂ : ControlsFollow l₂ l₃) : ControlsFollow l₁ l₃ where
  size := h₂.size.trans h₁.size
  slots k := (h₂.slots k).trans (h₁.slots k)
  controller k si := (h₂.controller k si).trans (h₁.controller k si)
  running k si h := h₁.running k si (h₂.running k si h)
  failed k si h := h₂.failed k si (h₁.failed k si h)
  frozen k h :=
    have h' := h₁.frozen k h
    ⟨(h₂.frozen k h'.1).1, (h₂.frozen k h'.1).2.trans h'.2⟩
  tallies := h₂.tallies.trans h₁.tallies

theorem of_controls {l l' : Lab τ σ} (hc : l'.controls = l.controls) : ControlsFollow l l' := by
  have hb : l'.run.bodies.map SimBody.controls = l.run.bodies.map SimBody.controls := congrArg Prod.fst hc
  -- every body reads the same controller state, in range or not
  have hk : ∀ k, (l'.simBody k).controls = (l.simBody k).controls := by
    intro k
    have := congrArg (·[k]?) hb
    simp only [Array.getElem?_map] at this
    unfold simBody
    simp only [Array.getD_eq_getD_getElem?]
    cases h₁ : l'.run.bodies[k]? <;> cases h₂ : l.run.bodies[k]? <;> simp_all [SimBody.controls]
  have hs : ∀ k, (l'.simBody k).slots = (l.simBody k).slots := fun k => congrArg Prod.fst (hk k)
  have hslot : ∀ k si, l'.slotAt k si = l.slotAt k si := fun k si => by unfold slotAt; rw [hs]
  refine ⟨by simpa using congrArg Array.size hb, fun k => by rw [hs], fun k si => by rw [hslot],
    fun k si => by rw [hslot]; exact id, fun k si => by rw [hslot]; exact id, fun k hf => ?_, congrArg Prod.snd hc⟩
  have := hk k
  simp only [SimBody.controls, Prod.mk.injEq] at this
  exact ⟨this.2.2.trans hf, this.2.1⟩

theorem of_controls_trans {l₁ l₂ l₃ : Lab τ σ} (h : ControlsFollow l₁ l₂) (hc : l₃.controls = l₂.controls) :
    ControlsFollow l₁ l₃ :=
  h.trans (of_controls hc)

end ControlsFollow

/-! ## One call -/

theorem slotAt_modifyBody_slots (k si : Nat) (g : ControllerSlot → ControllerSlot) (j i : Nat) :
    (lab.modifyBody k fun b => { b with slots := b.slots.modify si g }).slotAt j i =
      if j = k ∧ k < lab.run.bodies.size ∧ i = si ∧ si < (lab.simBody k).slots.size then g (lab.slotAt j i)
      else lab.slotAt j i := by
  unfold slotAt
  rw [simBody_modifyBody]
  by_cases hj : j = k ∧ k < lab.run.bodies.size
  · obtain ⟨rfl, hk⟩ := hj
    simp only [hk, and_self, if_true, true_and]
    exact getD_modify_slots si i g
  · rw [if_neg hj, if_neg fun h => hj ⟨h.1, h.2.1⟩]

theorem controlsFollow_modifySlot (k si : Nat) (g : ControllerSlot → ControllerSlot)
    (hc : ∀ s, (g s).controller = s.controller) (hr : ∀ s, (g s).running = true → s.running = true)
    (hf : ∀ s, s.failed = true → (g s).failed = true) :
    ControlsFollow lab (lab.modifyBody k fun b => { b with slots := b.slots.modify si g }) where
  size := size_bodies_modifyBody _ _ _
  slots j := by
    rw [simBody_modifyBody]
    split <;> simp
  controller j i := by
    rw [slotAt_modifyBody_slots]
    split
    · exact hc _
    · rfl
  running j i := by
    rw [slotAt_modifyBody_slots]
    split
    · exact hr _
    · exact id
  failed j i := by
    rw [slotAt_modifyBody_slots]
    split
    · exact hf _
    · exact id
  frozen j hfz := by
    rw [simBody_modifyBody]
    split
    · rename_i h
      obtain ⟨rfl, -⟩ := h
      exact ⟨hfz, rfl⟩
    · exact ⟨hfz, rfl⟩
  tallies := rfl

theorem controlsFollow_freeze (k : Nat) : ControlsFollow lab (lab.freeze k) where
  size := by
    unfold freeze
    dsimp only
    split
    · rfl
    · exact size_bodies_modifyBody _ _ _
  slots j := by
    rw [simBody_freeze]
    split <;> rfl
  controller j i := by rw [slotAt_freeze]
  running j i := by
    rw [slotAt_freeze]
    exact id
  failed j i := by
    rw [slotAt_freeze]
    exact id
  frozen j hfz := by
    rw [simBody_freeze]
    split
    · rename_i h
      obtain ⟨rfl, -, hnot⟩ := h
      rw [hfz] at hnot
      cases hnot
    · exact ⟨hfz, rfl⟩
  tallies := by
    unfold freeze
    dsimp only
    split <;> rfl

theorem controlsFollow_runSlot (env : Control.Env) (k : Nat) (sb : SimBody) (si : Nat) :
    ControlsFollow lab (runSlot env k sb lab si) := by
  cases hs : (sb.slots[si]!).running
  · rw [runSlot_of_stopped lab env k sb si hs]
    exact .refl lab
  · rw [runSlot_of_running lab env k sb si hs]
    dsimp only
    set idx := (sb.slots[si]!).controller
    -- the call itself changes only the controller, and keeps its tally
    have hc := ControlsFollow.of_controls (controls_withCalled lab env idx)
    have hw : ControlsFollow lab ((lab.withCalled env idx).withAssembly ((lab.called env idx).output lab.assembly)) :=
      hc.of_controls_trans rfl
    generalize CallOutcome.of (lab.callOf env idx) = o
    cases o with
    | goesOn => exact hw
    | finished =>
      exact hw.trans (controlsFollow_modifySlot _ k si _ (fun _ => rfl) (fun _ h => Bool.noConfusion h) fun _ h => h)
    | failed =>
      have hf := controlsFollow_modifySlot (lab.withCalled env idx) k si
        (fun s => { s with running := false, failed := true }) (fun _ => rfl) (fun _ h => Bool.noConfusion h)
        fun _ _ => rfl
      exact ((hc.trans hf).trans (controlsFollow_freeze _ k)).of_controls_trans rfl

theorem controlsFollow_foldl {α : Type} (f : Lab τ σ → α → Lab τ σ) (hf : ∀ x a, ControlsFollow x (f x a)) :
    ∀ (as : List α) (x : Lab τ σ), ControlsFollow x (as.foldl f x)
  | [], x => .refl x
  | a :: as, x => (hf x a).trans (controlsFollow_foldl f hf as (f x a))

theorem controlsFollow_runControllers (k : Nat) : ControlsFollow lab (lab.runControllers k) := by
  rw [runControllers_eq]
  -- writing held efforts back changes the assembly only
  have hr : ControlsFollow lab (lab.restoreFrozen k) := by
    unfold restoreFrozen
    dsimp only
    split
    · exact ControlsFollow.of_controls rfl
    · exact .refl lab
  exact hr.trans (controlsFollow_foldl _ (fun x si => controlsFollow_runSlot x _ k _ si) _ _)

theorem controlsFollow_runAllControllers : ControlsFollow lab lab.runAllControllers :=
  controlsFollow_foldl _ (fun x k => controlsFollow_runControllers x k) _ _

/-! ## Steps and runs -/

variable {h : Handlers τ σ}

theorem controls_completeStep : (lab.completeStep h).controls = lab.controls := by
  unfold completeStep
  dsimp only
  -- the frame moves on, and the rest only buffers, times and publishes
  have hfr : (lab.modifyRun fun r => { r with frame := r.frame + 1 }).controls = lab.controls := by
    unfold controls modifyRun modifySim run
    cases hr : lab.sim.run <;> simp [hr]
  split
  · rw [controls_stepView.flush, controls_stepView.measure, controls_stepView.bufferAll]
    exact hfr
  · rw [controls_stepView.measure, controls_stepView.bufferAll]
    exact hfr

theorem controlsFollow_step (hk : h.KeepsControls) : ControlsFollow lab (lab.step h).1 := by
  rcases controls_stepView.step_cases hk.1 hk.2 (ControlsFollow lab) (fun x y hxy hx => hx.of_controls_trans hxy)
      (fun x hx => hx.trans (controlsFollow_runAllControllers x)) (.refl lab) with ⟨-, hf⟩ | ⟨mid, hmid, heq⟩
  · exact hf
  · rw [heq]
    exact hmid.of_controls_trans (controls_completeStep mid)

theorem loop_controlsFollow (hk : h.KeepsControls) (fuel : Nat) : ControlsFollow lab (loop h fuel lab).1 :=
  loop_induction (ControlsFollow lab) (fun x hx => hx.trans (controlsFollow_step x hk))
    (fun x hx => hx.of_controls_trans (controls_stepView.holdRun x hk.2))
    (fun x hx => hx.of_controls_trans (controls_stepView.measure x _)) fuel lab (.refl lab)

/-! ## Runs that last while their controllers do -/

theorem simBody_eq_getElem {k : Nat} (hk : k < lab.run.bodies.size) : lab.simBody k = lab.run.bodies[k] := by
  unfold simBody
  rw [Array.getD_eq_getD_getElem?, Array.getElem?_eq_getElem hk]
  rfl

theorem slotAt_eq_getElem {k si : Nat} (hk : k < lab.run.bodies.size) (hsi : si < lab.run.bodies[k].slots.size) :
    lab.slotAt k si = lab.run.bodies[k].slots[si] := by
  unfold slotAt
  rw [simBody_eq_getElem lab hk, Array.getD_eq_getD_getElem?, Array.getElem?_eq_getElem hsi]
  rfl

theorem reachedEnd_of_activeControl (hr : lab.run.cfg.timeRange = .activeControl) :
    lab.reachedEnd = true ↔
      ∀ k < lab.run.bodies.size, ∀ si < (lab.simBody k).slots.size, (lab.slotAt k si).running = false := by
  unfold reachedEnd
  dsimp only
  rw [hr]
  simp only [Bool.not_eq_true', Array.any_eq_false, Array.any_eq_true, not_exists, Bool.not_eq_true]
  constructor
  · intro hall k hk si hsi
    rw [simBody_eq_getElem lab hk] at hsi
    rw [slotAt_eq_getElem lab hk hsi]
    exact hall k hk si hsi
  · intro hall k hk si hsi
    have := hall k hk si (by rw [simBody_eq_getElem lab hk]; exact hsi)
    rwa [slotAt_eq_getElem lab hk hsi] at this

theorem cfg_of_clock {l : Lab τ σ} (hc : l.clock.run.map Prod.fst = lab.clock.run.map Prod.fst) :
    l.run.cfg = lab.run.cfg := by
  unfold clock run at *
  cases hl : l.sim.run <;> cases hr : lab.sim.run <;> simp_all

theorem loop_of_activeControl (hc : h.KeepsClock) {n : Nat} {l : Lab τ σ} (hr : lab.run.cfg.timeRange = .activeControl)
    (hs : lab.run.stop = false) (hp : (lab.sim.state == .paused) = false) (hx : lab.step h = (l, none)) :
    loop h (n + 1) lab =
      if ∀ k < l.run.bodies.size, ∀ si < (l.simBody k).slots.size, (l.slotAt k si).running = false then
        (l.measure (·.observeStep 0), {})
      else loop h n (l.measure (·.observeStep 0)) := by
  rw [loop_of_stepped h n hs hp hx]
  -- the step keeps the run's settings: the run still lasts while its controllers do
  have hcfg : l.run.cfg = lab.run.cfg := by
    apply cfg_of_clock
    rcases step_clock hc lab with ⟨hf, -⟩ | ⟨-, hcl⟩
    · rw [hx] at hf
      cases hf
    · rw [hx] at hcl
      rw [show l.clock = lab.clock.tick from hcl, Clock.tick, Option.map_map]
      rfl
  have hend := reachedEnd_of_activeControl (l.measure (·.observeStep 0))
    ((congrArg Config.timeRange hcfg).trans hr)
  by_cases hall : ∀ k < l.run.bodies.size, ∀ si < (l.simBody k).slots.size, (l.slotAt k si).running = false
  · rw [if_pos (hend.2 hall), if_pos hall]
  · rw [if_neg fun he => hall (hend.1 he), if_neg hall]

end Lab

end Multibody.Sim
