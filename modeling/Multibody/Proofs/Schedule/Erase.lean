import Multibody.Proofs.Recording.Records

/-!
# What a run simulates, apart from what it publishes

`Lab.erase` forgets of a lab what a run publishes and what it reports on the
way: the items' states, recordings and notices, the bodies' buffers, the
simulation frame, the timeline's current time, the simulator's state and its
instruments.  What is left is what the simulation reads.

Every stage of a step but the hooks, the observers and the buffering of
snapshots commutes with the erasure (`freeze_erase` to `advance_erase`): run
on an erased lab it gives the erasure of what it gives on the lab, and the
same answer.  So what a step simulates does not depend on what was published
before it, nor on what waits in the buffers.
-/

namespace Multibody.Sim

variable {τ σ : Type}

/-- An item without what runs published to it. -/
def BodyItem.erase (bi : BodyItem) : BodyItem := { bi with state := none, recording := {}, notices := #[] }

/-- A simulation body without its buffer. -/
def SimBody.erase (sb : SimBody) : SimBody := { sb with buffer := #[] }

/-- A run whose bodies have empty buffers. -/
def Run.erase (r : Run) : Run := { r with bodies := r.bodies.map SimBody.erase }

/-- A lab without what runs publish and report on the way: the items'
states, recordings and notices, the buffers, the simulation frame, the
timeline's current time, the simulator's state and its instruments. -/
def Lab.erase (lab : Lab τ σ) : Lab τ σ :=
  { lab with
    items := lab.items.map BodyItem.erase
    world := { lab.world with timeline := { lab.world.timeline with current := 0.0 } }
    sim := { lab.sim with run := lab.sim.run.map Run.erase, simFrame := 0, state := .idle, meter := none } }

@[simp] theorem SimBody.erase_default : (default : SimBody).erase = default := rfl

section
variable (sb : SimBody) (r : Run)
@[simp] theorem SimBody.item_erase : sb.erase.item = sb.item := rfl
@[simp] theorem SimBody.body_erase : sb.erase.body = sb.body := rfl
@[simp] theorem SimBody.slots_erase : sb.erase.slots = sb.slots := rfl
@[simp] theorem SimBody.frozen_erase : sb.erase.frozen = sb.frozen := rfl
@[simp] theorem SimBody.isFrozen_erase : sb.erase.isFrozen = sb.isFrozen := rfl
@[simp] theorem SimBody.active_erase : sb.erase.active = sb.active := rfl
@[simp] theorem SimBody.capacity_erase : sb.erase.capacity = sb.capacity := rfl
@[simp] theorem SimBody.changedDevices_erase : sb.erase.changedDevices = sb.changedDevices := rfl
@[simp] theorem Run.cfg_erase : r.erase.cfg = r.cfg := rfl
@[simp] theorem Run.frame_erase : r.erase.frame = r.frame := rfl
@[simp] theorem Run.time_erase : r.erase.time = r.time := rfl
@[simp] theorem Run.active_erase : r.erase.active = r.active := rfl
@[simp] theorem Run.stop_erase : r.erase.stop = r.stop := rfl
@[simp] theorem Run.opts_erase : r.erase.opts = r.opts := rfl
@[simp] theorem Run.record_erase : r.erase.record = r.record := rfl
@[simp] theorem Run.forceStart_erase : r.erase.forceStart = r.forceStart := rfl
@[simp] theorem Run.detecting_erase : r.erase.detecting = r.detecting := rfl
@[simp] theorem Run.contacts_erase : r.erase.contacts = r.contacts := rfl
@[simp] theorem Run.activityDirty_erase : r.erase.activityDirty = r.activityDirty := rfl
end

@[simp] theorem SimBody.erase_erase (sb : SimBody) : sb.erase.erase = sb.erase := rfl

theorem Run.getD_bodies_erase (r : Run) (k : Nat) :
    r.erase.bodies.getD k default = (r.bodies.getD k default).erase := by
  simp only [Run.erase, Array.getD_eq_getD_getElem?, Array.getElem?_map]
  cases r.bodies[k]? <;> rfl

@[simp] theorem Run.getElem!_bodies_erase (r : Run) (k : Nat) : r.erase.bodies[k]! = (r.bodies[k]!).erase := by
  simp only [Array.getElem!_eq_getD, Run.getD_bodies_erase]

@[simp] theorem Run.size_bodies_erase (r : Run) : r.erase.bodies.size = r.bodies.size := by
  simp [Run.erase]

@[simp] theorem Run.bodyOf?_erase (r : Run) (i : Nat) : r.erase.bodyOf? i = r.bodyOf? i := by
  simp [Run.bodyOf?, Run.erase, SimBody.erase, Function.comp_def]

theorem Run.rebuildActive_erase (r : Run) : r.erase.rebuildActive = r.rebuildActive.erase := by
  simp only [Run.rebuildActive, Run.erase, SimBody.erase, Array.map_map, Function.comp_def, Run.mk.injEq,
    true_and, and_true, Array.size_map]
  congr 1
  funext k
  simp only [Array.getElem!_eq_getD, Array.getD_eq_getD_getElem?, Array.getElem?_map]
  cases r.bodies[k]? <;> rfl

namespace Lab

@[simp] theorem stepError_erase (r : Run) (c : Condition) (cause : Option String) :
    stepError r.erase c cause = stepError r c cause := rfl

variable (lab : Lab τ σ)

@[simp] theorem run_erase : lab.erase.run = lab.run.erase := by
  cases hr : lab.sim.run <;> simp [erase, run, hr, Run.erase]

@[simp] theorem assembly_erase : lab.erase.assembly = lab.assembly := rfl

@[simp] theorem controllers_erase : lab.erase.controllers = lab.controllers := rfl

@[simp] theorem detector_erase : lab.erase.sim.detector = lab.sim.detector := rfl

@[simp] theorem backend_erase : lab.erase.sim.backend = lab.sim.backend := rfl

@[simp] theorem currentTime_erase : lab.erase.currentTime = lab.currentTime := rfl

@[simp] theorem controlEnv_erase (cfg : Config) : lab.erase.controlEnv cfg = lab.controlEnv cfg := rfl

theorem withAssembly_erase (a : Assembly) : lab.erase.withAssembly a = (lab.withAssembly a).erase := rfl

theorem measure_erase (f : Observe.Meter → Observe.Meter) : lab.erase.measure f = (lab.measure f).erase := rfl

theorem setBackend_erase (b : Option Dynamics.Backend) :
    lab.erase.modifySim (fun s => { s with backend := b }) = (lab.modifySim fun s => { s with backend := b }).erase :=
  rfl

theorem modifyRun_erase {f : Run → Run} (hf : ∀ r, f r.erase = (f r).erase) :
    lab.erase.modifyRun f = (lab.modifyRun f).erase := by
  cases hr : lab.sim.run <;> simp [erase, modifyRun, modifySim, hr, hf]

theorem modifyBody_erase (k : Nat) {f : SimBody → SimBody} (hf : ∀ sb, f sb.erase = (f sb).erase) :
    lab.erase.modifyBody k f = (lab.modifyBody k f).erase := by
  refine modifyRun_erase _ fun r => ?_
  simp only [Run.erase, Run.mk.injEq, and_true, true_and]
  apply Array.ext (by simp)
  intro i h₁ h₂
  simp only [Array.getElem_map, Array.getElem_modify]
  split <;> simp [hf]

end Lab

theorem foldl_commute {α β : Type} (e : β → β) (f : β → α → β) (hf : ∀ b a, f (e b) a = e (f b a)) :
    ∀ (l : List α) (b : β), l.foldl f (e b) = e (l.foldl f b)
  | [], _ => rfl
  | a :: l, b => by rw [List.foldl_cons, List.foldl_cons, hf, foldl_commute e f hf l]

namespace Lab

variable (lab : Lab τ σ)

/-! ## The stages of a step commute with the erasure -/

theorem freeze_erase (k : Nat) : lab.erase.freeze k = (lab.freeze k).erase := by
  unfold freeze
  simp only [run_erase, Run.getD_bodies_erase, assembly_erase, SimBody.erase]
  by_cases hc : (lab.run.bodies.getD k default).isFrozen = true
  · simp only [hc, ↓reduceIte]
  · simp only [hc, Bool.false_eq_true, ↓reduceIte]
    refine modifyBody_erase _ _ fun sb => ?_
    rfl

theorem driveController_erase (env : Control.Env) (idx : Nat) :
    lab.erase.driveController env idx = ((lab.driveController env idx).1.erase, (lab.driveController env idx).2) := by
  unfold driveController
  simp only [controllers_erase, assembly_erase]
  split
  · rfl
  · split <;> rfl

theorem stopSlot_erase (k si : Nat) (f : Failure) : lab.erase.stopSlot k si f = (lab.stopSlot k si f).erase := by
  unfold stopSlot
  dsimp only
  rw [modifyBody_erase]
  · split
    · rw [freeze_erase, measure_erase]
    · rfl
  · intro sb
    rfl

theorem runSlot_erase (env : Control.Env) (k : Nat) (sb : SimBody) (si : Nat) :
    runSlot env k sb lab.erase si = (runSlot env k sb lab si).erase := by
  unfold runSlot
  dsimp only
  split
  · rfl
  · rw [driveController_erase]
    rcases lab.driveController env (sb.slots[si]!).controller with ⟨l, _ | f⟩
    · rfl
    · exact stopSlot_erase _ _ _ _

@[simp] theorem runSlot_body_erase (env : Control.Env) (k : Nat) (sb : SimBody) :
    runSlot env k sb.erase = @runSlot τ σ env k sb := rfl

theorem runControllers_erase (k : Nat) : lab.erase.runControllers k = (lab.runControllers k).erase := by
  unfold runControllers
  simp only [run_erase, Run.getD_bodies_erase, assembly_erase, SimBody.isFrozen_erase, SimBody.body_erase,
    SimBody.frozen_erase, SimBody.slots_erase, runSlot_body_erase]
  -- after the frozen efforts are written back, the slots run alike
  by_cases hc : (lab.run.bodies.getD k default).isFrozen = true
  · simp only [hc, ↓reduceIte, withAssembly_erase, controlEnv_erase, run_erase, Run.cfg_erase]
    exact foldl_commute erase _ (fun x si => runSlot_erase x _ k _ si) _ _
  · simp only [hc, Bool.false_eq_true, ↓reduceIte, controlEnv_erase, run_erase, Run.cfg_erase]
    exact foldl_commute erase _ (fun x si => runSlot_erase x _ k _ si) _ _

theorem runAllControllers_erase : lab.erase.runAllControllers = lab.runAllControllers.erase := by
  unfold runAllControllers
  rw [run_erase, Run.size_bodies_erase]
  exact foldl_commute erase _ runControllers_erase _ _

theorem clearForces_erase : lab.erase.clearForces = lab.clearForces.erase := by
  unfold clearForces
  rw [run_erase, Run.active_erase, ← Array.foldl_toList, ← Array.foldl_toList]
  refine foldl_commute erase _ (fun x k => ?_) _ _
  simp only [run_erase, Run.getD_bodies_erase, SimBody.body_erase, assembly_erase]
  rfl

theorem forceLapsed_erase (now : Float) (f : ForceCommand) :
    lab.erase.forceLapsed now f = ((lab.forceLapsed now f).1.erase, (lab.forceLapsed now f).2) := by
  unfold forceLapsed
  simp only [run_erase, Run.forceStart_erase]
  split
  · split
    · rfl
    · rw [modifyRun_erase]
      intro r
      rfl
  · rfl

theorem applyForce_erase (now : Float) (f : ForceCommand) :
    lab.erase.applyForce now f = (lab.applyForce now f).erase := by
  unfold applyForce
  simp only [run_erase, Run.bodyOf?_erase, Run.getElem!_bodies_erase, SimBody.active_erase, SimBody.body_erase,
    assembly_erase]
  split
  · rfl
  · split
    · rfl
    · split
      · rfl
      · rw [forceLapsed_erase]
        rcases lab.forceLapsed now f with ⟨l, _ | _⟩
        · rfl
        · rfl

theorem applyString_erase (st : StringCommand) : lab.erase.applyString st = (lab.applyString st).erase := by
  unfold applyString
  simp only [run_erase, Run.bodyOf?_erase, Run.getElem!_bodies_erase, SimBody.active_erase, SimBody.body_erase,
    assembly_erase]
  split
  · rfl
  · split
    · rfl
    · split <;> rfl

theorem applyPerturbations_erase (p : Perturbations) :
    lab.erase.applyPerturbations p = (lab.applyPerturbations p).erase := by
  unfold applyPerturbations
  rw [run_erase, Run.time_erase, ← Array.foldl_toList, ← Array.foldl_toList, ← Array.foldl_toList,
    ← Array.foldl_toList, foldl_commute erase _ (fun x f => applyForce_erase x _ f),
    foldl_commute erase _ applyString_erase]

theorem holdForcedPose_erase (fp : ForcedPose) : lab.erase.holdForcedPose fp = (lab.holdForcedPose fp).erase := by
  unfold holdForcedPose
  simp only [run_erase, Run.bodyOf?_erase, Run.getElem!_bodies_erase, SimBody.body_erase, assembly_erase]
  split
  · rfl
  · split
    · rfl
    · split <;> rfl

theorem holdForcedPoses_erase (p : Perturbations) :
    lab.erase.holdForcedPoses p = (lab.holdForcedPoses p).erase := by
  unfold holdForcedPoses
  rw [← Array.foldl_toList, ← Array.foldl_toList]
  exact foldl_commute erase _ holdForcedPose_erase _ _

theorem queryDetector_erase (d : Detector) :
    lab.erase.queryDetector d = ((lab.queryDetector d).1.erase, (lab.queryDetector d).2) := by
  unfold queryDetector
  split
  · rw [modifyRun_erase]
    intro r
    rfl
  · rfl

theorem useContacts_erase (pairs : Array LinkPair) : lab.erase.useContacts pairs = (lab.useContacts pairs).erase := by
  unfold useContacts
  simp only [run_erase, Run.contacts_erase]
  split
  · rw [show lab.erase.modifySim (fun s => { s with backend := s.backend.map (·.setContacts pairs) }) =
        (lab.modifySim fun s => { s with backend := s.backend.map (·.setContacts pairs) }).erase from rfl,
      modifyRun_erase]
    intro r
    rfl
  · rw [modifyRun_erase]
    intro r
    rfl

theorem detectCollisions_erase : lab.erase.detectCollisions = lab.detectCollisions.erase := by
  unfold detectCollisions
  rw [detector_erase]
  cases lab.sim.detector with
  | none => rfl
  | some d =>
    dsimp only
    rw [queryDetector_erase]
    rcases lab.queryDetector d with ⟨l, pairs⟩
    exact useContacts_erase l pairs

theorem advance_erase : lab.erase.advance = (lab.advance.1.erase, lab.advance.2) := by
  unfold advance
  rw [backend_erase]
  cases lab.sim.backend with
  | none => simp
  | some bk =>
    dsimp only
    simp only [run_erase, Run.active_erase, Run.getD_bodies_erase, SimBody.body_erase, assembly_erase,
      currentTime_erase]
    split
    · simp
    · rw [withAssembly_erase, setBackend_erase, run_erase, stepError_erase]

end Lab

/-! ## What the erasure forgets: publishing and instruments -/

theorem Array.map_modify_of_keeps {α β : Type} (g : α → β) {f : α → α} (hf : ∀ a, g (f a) = g a)
    (xs : Array α) (i : Nat) : (xs.modify i f).map g = xs.map g := by
  apply Array.ext_getElem?
  intro j
  simp only [Array.getElem?_map, Array.getElem?_modify]
  split
  · cases xs[j]? <;> simp [hf]
  · rfl

theorem BodyItem.erase_publish (bi : BodyItem) (fs : Array Snapshot) (record : Bool) :
    (bi.publish fs record).erase = bi.erase := by
  unfold BodyItem.publish
  split
  · rfl
  · split <;> rfl

namespace Lab

variable (lab : Lab τ σ)

@[simp] theorem erase_measure (f : Observe.Meter → Observe.Meter) : (lab.measure f).erase = lab.erase := rfl

@[simp] theorem erase_setState (st : SimState) : (lab.setState st).erase = lab.erase := rfl

theorem erase_modifyItem (i : Nat) {f : BodyItem → BodyItem} (hf : ∀ bi, (f bi).erase = bi.erase) :
    (lab.modifyItem i f).erase = lab.erase := by
  simp only [erase, modifyItem, Array.map_modify_of_keeps _ hf]

theorem erase_modifyBody (k : Nat) {f : SimBody → SimBody} (hf : ∀ sb, (f sb).erase = sb.erase) :
    (lab.modifyBody k f).erase = lab.erase := by
  cases hr : lab.sim.run <;>
    simp [erase, modifyBody, modifyRun, modifySim, hr, Run.erase, Array.map_modify_of_keeps _ hf]

theorem erase_modifyBody_erase (k : Nat) (f : SimBody → SimBody) (hf : ∀ sb, (f sb.erase).erase = (f sb).erase) :
    (lab.erase.modifyBody k f).erase = (lab.modifyBody k f).erase := by
  have hb : ∀ bs : Array SimBody,
      ((bs.map SimBody.erase).modify k f).map SimBody.erase = (bs.modify k f).map SimBody.erase := by
    intro bs
    apply Array.ext_getElem?
    intro j
    simp only [Array.getElem?_map, Array.getElem?_modify]
    split
    · cases bs[j]? <;> simp [hf]
    · cases bs[j]? <;> simp
  cases hr : lab.sim.run <;>
    simp [erase, modifyBody, modifyRun, modifySim, hr, Run.erase, hb, BodyItem.erase, Function.comp_def]

theorem erase_flushBody (r : Run) (acc : Lab τ σ × Nat × Int) (k : Nat) :
    (flushBody r acc k).1.erase = acc.1.erase := by
  unfold flushBody
  dsimp only
  split
  · rfl
  · dsimp only
    rw [erase_modifyBody, erase_modifyItem]
    · exact fun bi => BodyItem.erase_publish bi _ _
    · exact fun sb => rfl

theorem erase_flush : lab.flush.erase = lab.erase := by
  have hfold := foldl_keeps (fun acc : Lab τ σ × Nat × Int => acc.1.erase) (flushBody lab.run)
    (erase_flushBody lab.run) (List.range lab.run.bodies.size) (lab, 0, -1)
  unfold flush
  dsimp only
  revert hfold
  generalize (List.range lab.run.bodies.size).foldl (flushBody lab.run) (lab, 0, -1) = acc
  obtain ⟨l, total, last⟩ := acc
  intro hfold
  dsimp only at hfold ⊢
  split
  · exact hfold
  · rw [← hfold]
    rfl

@[simp] theorem reachedEnd_erase : lab.erase.reachedEnd = lab.reachedEnd := by
  unfold reachedEnd
  simp only [run_erase, Run.cfg_erase, Run.time_erase]
  split
  · rfl
  · simp [Run.erase, Function.comp_def]
  · rfl
  · rfl

end Lab

end Multibody.Sim
