import Multibody.Proofs.Perturbations.Step

/-!
# What the stages of a step leave of the run

A `RunView` is blind to what the controllers, the forces and the detection
change of the run; they keep it (`RunView.runAllControllers`,
`RunView.applyPerturbations`, `RunView.detectCollisions`), and the other
stages keep the whole run (`Lab.run_clearForces`, `Lab.run_advance`).
-/

namespace Multibody.Sim

variable {τ σ : Type}

theorem map_modify_of_keeps {α γ : Type} (g : α → γ) {f : α → α} (hf : ∀ a, g (f a) = g a) (xs : Array α)
    (k : Nat) : (xs.modify k f).map g = xs.map g := by
  rw [@Array.map_modify _ _ g f (fun v => v) hf]
  exact Array.modify_eq_self (fun _ => rfl) _ _

namespace Lab

variable (lab : Lab τ σ)

theorem run_clearForces : lab.clearForces.run = lab.run := by
  unfold clearForces
  rw [← Array.foldl_toList]
  exact foldl_keeps run
    (fun y k => y.withAssembly (y.assembly.clearExternalForces (y.run.bodies.getD k default).body)) (fun _ _ => rfl) _ _

theorem run_advance : lab.advance.1.run = lab.run := by
  unfold advance
  split
  · rfl
  · dsimp only
    split <;> rfl

end Lab

/-- A view of the run blind to the controllers' slots and held efforts, to
the force clocks and to collision detection. -/
structure RunView {β : Type} (v : Run → β) : Prop where
  slot : ∀ (r : Run) (k si : Nat) (g : ControllerSlot → ControllerSlot),
    v { r with bodies := r.bodies.modify k fun sb => { sb with slots := sb.slots.modify si g } } = v r
  held : ∀ (r : Run) (k : Nat) (u : Array Float),
    v { r with bodies := r.bodies.modify k fun sb => { sb with frozen := u, isFrozen := true } } = v r
  clock : ∀ (r : Run) (e : Nat × Float), v { r with forceStart := e :: r.forceStart } = v r
  detecting : ∀ r : Run, v { r with detecting := false } = v r
  collisions : ∀ (r : Run) (pairs : Array LinkPair), v { r with collisions := pairs } = v r

theorem RunView.of_bodies {β γ : Type} (g : SimBody → γ) (v : Array γ → β)
    (hslots : ∀ sb s, g { sb with slots := s } = g sb)
    (hfreeze : ∀ sb u, g { sb with frozen := u, isFrozen := true } = g sb) :
    RunView fun r => v (r.bodies.map g) where
  slot r k si g' := by
    dsimp only
    rw [map_modify_of_keeps g fun sb => hslots sb _]
  held r k u := by
    dsimp only
    rw [map_modify_of_keeps g fun sb => hfreeze sb u]
  clock _ _ := rfl
  detecting _ := rfl
  collisions _ _ := rfl

namespace RunView

variable {β : Type} {v : Run → β} (hv : RunView v) (lab : Lab τ σ)
include hv

theorem freeze (k : Nat) : v (lab.freeze k).run = v lab.run := by
  unfold Lab.freeze
  dsimp only
  split
  · rfl
  · rw [Lab.run_modifyBody]
    exact hv.held _ _ _

theorem stopSlot (k si : Nat) (f : Failure) : v (lab.stopSlot k si f).run = v lab.run := by
  unfold Lab.stopSlot
  dsimp only
  have hs : v (lab.modifyBody k fun sb => { sb with slots := sb.slots.modify si fun s =>
      { s with running := false, failed := s.failed || !f.has .controllerDone } }).run = v lab.run := by
    rw [Lab.run_modifyBody]
    exact hv.slot _ _ _ _
  split
  · exact (hv.freeze _ k).trans hs
  · exact hs

theorem runSlot (env : Control.Env) (k : Nat) (sb : SimBody) (si : Nat) :
    v (Lab.runSlot env k sb lab si).run = v lab.run := by
  unfold Lab.runSlot
  dsimp only
  split
  · rfl
  · -- the call itself changes the controllers and the assembly alone
    have h : v (lab.driveController env (sb.slots[si]!).controller).1.run = v lab.run := by
      unfold Lab.driveController
      dsimp only
      split
      · rfl
      · split <;> rfl
    split <;> rename_i lab' _ heq <;> rw [heq] at h
    · exact h
    · exact (hv.stopSlot _ _ _ _).trans h

theorem runAllControllers : v lab.runAllControllers.run = v lab.run := by
  have hbody : ∀ (x : Lab τ σ) k, v (x.runControllers k).run = v x.run := by
    intro x k
    unfold Lab.runControllers
    dsimp only
    rw [foldl_keeps (fun y : Lab τ σ => v y.run) _ (fun y si => hv.runSlot y _ k _ si)]
    split <;> rfl
  exact foldl_keeps (fun y : Lab τ σ => v y.run) _ hbody _ _

theorem applyPerturbations (p : Perturbations) : v (lab.applyPerturbations p).run = v lab.run :=
  Lab.run_view_applyPerturbations lab p v hv.clock

theorem detectCollisions : v lab.detectCollisions.run = v lab.run := by
  have hquery : ∀ d, v (lab.queryDetector d).1.run = v lab.run := by
    intro d
    unfold Lab.queryDetector
    split
    · exact Lab.run_view_modifyRun lab v hv.detecting
    · rfl
  have huse : ∀ (x : Lab τ σ) pairs, v (x.useContacts pairs).run = v x.run := by
    intro x pairs
    unfold Lab.useContacts
    dsimp only
    split <;> exact Lab.run_view_modifyRun _ v fun r => hv.collisions r pairs
  unfold Lab.detectCollisions
  split
  · rfl
  · rename_i d _
    have h := hquery d
    split
    rename_i heq
    rw [heq] at h
    exact (huse _ _).trans h

end RunView

end Multibody.Sim
