import Multibody.Proofs.Hooks.Registry
import Multibody.Proofs.Recording.Records

/-!
# What the stages of a run leave of the hook machinery

`Lab.hookView` is what the hooks and the driver own: the three registries,
the handle counter and the driver's state.  Only a registration, a removal,
a step boundary, the end of a run, and the driver's own hooks and observers
change it.  Every other stage of a setup, a step, a hold and a teardown
keeps it (`hookView_setup` to `hookView_flush`).
-/

namespace Multibody.Sim

variable {τ σ : Type}

/-- The registries, the handle counter and the driver's state. -/
structure HookView (τ σ : Type) where
  pre : HookRegistry τ
  mid : HookRegistry τ
  post : HookRegistry τ
  nextHandle : Nat
  session : σ

namespace Lab

/-- What the hooks and the driver own of a lab. -/
def hookView (lab : Lab τ σ) : HookView τ σ :=
  ⟨lab.sim.pre, lab.sim.mid, lab.sim.post, lab.sim.nextHandle, lab.session⟩

section
variable {lab₁ lab₂ : Lab τ σ} (h : lab₁.hookView = lab₂.hookView)
include h

theorem hooksOf_of_hookView (p : Phase) : lab₁.hooksOf p = lab₂.hooksOf p := by
  have hpre := congrArg HookView.pre h
  have hmid := congrArg HookView.mid h
  have hpost := congrArg HookView.post h
  cases p
  · exact hpre
  · exact hmid
  · exact hpost

theorem session_of_hookView : lab₁.session = lab₂.session := congrArg HookView.session h

theorem nextHandle_of_hookView : lab₁.sim.nextHandle = lab₂.sim.nextHandle := congrArg HookView.nextHandle h

theorem handles_of_hookView : lab₁.handles = lab₂.handles := by
  simp only [handles, hooksOf_of_hookView h]

theorem HandlesIssued.of_hookView (hi : lab₂.HandlesIssued) : lab₁.HandlesIssued := by
  refine ⟨?_, fun id hid => ?_⟩
  · rw [handles_of_hookView h]
    exact hi.nodup
  · rw [nextHandle_of_hookView h]
    exact hi.le id (handles_of_hookView h ▸ hid)

end

variable (lab : Lab τ σ)

/-! ## Operations that leave the hook view alone -/

@[simp] theorem hookView_withAssembly (a : Assembly) : (lab.withAssembly a).hookView = lab.hookView := rfl

@[simp] theorem hookView_measure (f : Observe.Meter → Observe.Meter) : (lab.measure f).hookView = lab.hookView :=
  rfl

@[simp] theorem hookView_trace (span : Observe.Span) : (lab.trace span).hookView = lab.hookView := rfl

@[simp] theorem hookView_setState (st : SimState) : (lab.setState st).hookView = lab.hookView := rfl

@[simp] theorem hookView_modifyRun (f : Run → Run) : (lab.modifyRun f).hookView = lab.hookView := rfl

@[simp] theorem hookView_modifyBody (k : Nat) (f : SimBody → SimBody) : (lab.modifyBody k f).hookView = lab.hookView :=
  rfl

@[simp] theorem hookView_modifyItem (i : Nat) (f : BodyItem → BodyItem) :
    (lab.modifyItem i f).hookView = lab.hookView := rfl

@[simp] theorem hookView_setControllers (cs : Array Control.Controller) :
    ({ lab with controllers := cs }).hookView = lab.hookView := rfl

/-! ## The stages of a step -/

theorem hookView_freeze (k : Nat) : (lab.freeze k).hookView = lab.hookView := by
  unfold freeze
  dsimp only
  split <;> rfl

theorem hookView_driveController (env : Control.Env) (idx : Nat) :
    (lab.driveController env idx).1.hookView = lab.hookView := by
  unfold driveController
  dsimp only
  split
  · rfl
  · split <;> rfl

theorem hookView_stopSlot (k si : Nat) (f : Failure) : (lab.stopSlot k si f).hookView = lab.hookView := by
  unfold stopSlot
  dsimp only
  split
  · rw [hookView_measure, hookView_freeze]
    rfl
  · rfl

theorem hookView_runSlot (env : Control.Env) (k : Nat) (sb : SimBody) (si : Nat) :
    (runSlot env k sb lab si).hookView = lab.hookView := by
  unfold runSlot
  dsimp only
  split
  · rfl
  · have h := lab.hookView_driveController env (sb.slots[si]!).controller
    split <;> rename_i lab' _ heq <;> rw [heq] at h
    · exact h
    · exact (hookView_stopSlot _ _ _ _).trans h

theorem hookView_runControllers (k : Nat) : (lab.runControllers k).hookView = lab.hookView := by
  unfold runControllers
  dsimp only
  rw [foldl_keeps hookView _ (fun lab si => hookView_runSlot lab _ k _ si)]
  split <;> rfl

theorem hookView_runAllControllers : lab.runAllControllers.hookView = lab.hookView :=
  foldl_keeps hookView _ hookView_runControllers _ _

theorem hookView_clearForces : lab.clearForces.hookView = lab.hookView := by
  unfold clearForces
  rw [← Array.foldl_toList]
  apply foldl_keeps
  intro lab k
  rfl

theorem hookView_forceLapsed (now : Float) (f : ForceCommand) :
    (lab.forceLapsed now f).1.hookView = lab.hookView := by
  unfold forceLapsed
  split
  · split <;> rfl
  · rfl

theorem hookView_applyForce (now : Float) (f : ForceCommand) :
    (lab.applyForce now f).hookView = lab.hookView := by
  unfold applyForce
  dsimp only
  split
  · rfl
  · split
    · rfl
    · split
      · rfl
      · have h := lab.hookView_forceLapsed now f
        split <;> rename_i heq <;> rw [heq] at h <;> simpa using h

theorem hookView_applyString (s : StringCommand) : (lab.applyString s).hookView = lab.hookView := by
  unfold applyString
  dsimp only
  split
  · rfl
  · split
    · rfl
    · split <;> rfl

theorem hookView_applyPerturbations (p : Perturbations) :
    (lab.applyPerturbations p).hookView = lab.hookView := by
  unfold applyPerturbations
  dsimp only
  rw [← Array.foldl_toList, foldl_keeps hookView _ hookView_applyString, ← Array.foldl_toList,
    foldl_keeps hookView _ (fun lab f => hookView_applyForce lab _ f)]

theorem hookView_holdForcedPose (fp : ForcedPose) : (lab.holdForcedPose fp).hookView = lab.hookView := by
  unfold holdForcedPose
  dsimp only
  split
  · rfl
  · split
    · rfl
    · split <;> rfl

theorem hookView_holdForcedPoses (p : Perturbations) : (lab.holdForcedPoses p).hookView = lab.hookView := by
  unfold holdForcedPoses
  rw [← Array.foldl_toList]
  exact foldl_keeps hookView _ hookView_holdForcedPose _ _

theorem hookView_queryDetector (d : Detector) : (lab.queryDetector d).1.hookView = lab.hookView := by
  unfold queryDetector
  split <;> rfl

theorem hookView_useContacts (pairs : Array LinkPair) : (lab.useContacts pairs).hookView = lab.hookView := by
  unfold useContacts
  dsimp only
  rw [hookView_modifyRun]
  split <;> rfl

theorem hookView_detectCollisions : lab.detectCollisions.hookView = lab.hookView := by
  unfold detectCollisions
  split
  · rfl
  · rename_i d _
    have h := lab.hookView_queryDetector d
    split
    rename_i heq
    rw [heq] at h
    exact (hookView_useContacts _ _).trans h

theorem hookView_advance : lab.advance.1.hookView = lab.hookView := by
  unfold advance
  split
  · rfl
  · dsimp only
    split <;> rfl

theorem hookView_flush : lab.flush.hookView = lab.hookView := by
  have hfold := foldl_keeps (fun acc : Lab τ σ × Nat × Int => acc.1.hookView) (flushBody lab.run)
    (fun acc k => by
      unfold flushBody
      dsimp only
      split <;> rfl) (List.range lab.run.bodies.size) (lab, 0, -1)
  unfold flush
  dsimp only at hfold ⊢
  -- name the fold's result, so that each branch reads its lab directly
  rcases hf : (List.range lab.run.bodies.size).foldl (flushBody lab.run) (lab, 0, -1) with ⟨l, total, last⟩
  rw [hf] at hfold
  dsimp only at hfold ⊢
  split
  · exact hfold
  · exact hfold

theorem hookView_completeStep (h : Handlers τ σ) : (lab.completeStep h).hookView = lab.hookView := by
  unfold completeStep bufferAll
  dsimp only
  have hbuf : ∀ lab' : Lab τ σ, ((List.range lab'.run.bodies.size).foldl
      (fun lab k => lab.bufferResults k lab'.run.frame lab'.run.time) lab').hookView = lab'.hookView :=
    fun lab' => foldl_keeps hookView (fun lab k => lab.bufferResults k lab'.run.frame lab'.run.time)
      (fun _ _ => rfl) _ _
  split
  · rw [hookView_flush, hookView_measure, hbuf]
    rfl
  · rw [hookView_measure, hbuf]
    rfl

/-! ## The stages of a setup -/

theorem hookView_applyStates (pairs : List (Nat × BodyId)) :
    (lab.applyStates pairs).hookView = lab.hookView := by
  unfold applyStates
  apply foldl_keeps
  intro lab p
  obtain ⟨i, c⟩ := p
  dsimp only
  split
  · split <;> rfl
  · rfl

theorem hookView_initController (cfg : Config) (clone : BodyId) (att : Attachment) :
    (initController cfg clone att lab).1.hookView = lab.hookView := by
  unfold initController
  split <;> rfl

theorem hookView_prepareSlots (cfg : Config) (bi : BodyItem) (clone : BodyId) :
    ∀ (atts : List Attachment) (lab : Lab τ σ) (slots : Array ControllerSlot),
      (prepareSlots cfg bi clone atts lab slots).1.hookView = lab.hookView
  | [], _, _ => rfl
  | att :: rest, lab, slots => by
    have hinit := lab.hookView_initController cfg clone att
    unfold prepareSlots
    dsimp only
    split
    · split <;> exact hinit
    · exact (hookView_prepareSlots cfg bi clone rest _ _).trans hinit

theorem hookView_prepareBodies (cfg : Config) :
    ∀ (pairs : List (Nat × BodyId)) (lab : Lab τ σ) (bodies : Array SimBody),
      (prepareBodies cfg pairs lab bodies).1.hookView = lab.hookView
  | [], _, _ => rfl
  | (i, c) :: rest, lab, bodies => by
    have hprep := hookView_prepareSlots cfg (lab.items.getD i default) c
      (lab.items.getD i default).controllers.toList lab #[]
    unfold prepareBodies prepareControllers
    split
    · rename_i heq
      rw [heq] at hprep
      exact hprep
    · rename_i lab₁ heq
      rw [heq] at hprep
      exact (hookView_prepareBodies cfg rest lab₁ bodies).trans hprep
    · rename_i lab₁ slots heq
      rw [heq] at hprep
      exact (hookView_prepareBodies cfg rest lab₁ _).trans hprep

theorem hookView_resolveDetector : lab.resolveDetector.hookView = lab.hookView := by
  unfold resolveDetector
  dsimp only
  split
  · rfl
  · split
    · rfl
    · split <;> rfl

theorem hookView_openRecordings (reset : Bool) (capacity : Int) (bodies : Array SimBody) :
    (lab.openRecordings reset capacity bodies).hookView = lab.hookView := by
  unfold openRecordings
  rw [← Array.foldl_toList]
  apply foldl_keeps
  intro lab sb
  rfl

theorem hookView_launch (cfg : Config) (backend : Dynamics.Backend) (reset : Bool) (startFrame : Int)
    (bodies : Array SimBody) : (lab.launch cfg backend reset startFrame bodies).1.hookView = lab.hookView := by
  unfold launch
  dsimp only
  -- whether the engine answered, and whether it accepted the run
  split
  all_goals
    split
    · rfl
    · rw [hookView_measure]
      change (Lab.openRecordings _ reset _ bodies).hookView = _
      exact hookView_openRecordings _ reset _ bodies

theorem hookView_setupWith (cfg : Config) (backend : Dynamics.Backend) (reset : Bool) :
    (lab.setupWith cfg backend reset).1.hookView = lab.hookView := by
  unfold setupWith
  dsimp only
  split
  · rfl
  · rename_i a cm clones heqc
    split
    all_goals
      rename_i lab₂ _ heqp
      have hprep := congrArg (fun p => p.1.hookView) heqp
      simp only [hookView_prepareBodies, apply_ite Lab.hookView, hookView_withAssembly,
        hookView_applyStates, ite_self] at hprep
    · rw [← hprep]
      rfl
    · rw [hookView_launch, hookView_resolveDetector]
      change lab₂.hookView = _
      rw [← hprep]
      rfl

theorem hookView_setup (reset : Bool) : (lab.setup reset).1.hookView = lab.hookView := by
  unfold setup
  dsimp only
  split
  · rfl
  · rfl
  · split
    · exact hookView_setupWith _ _ _ _
    · rfl

end Lab

end Multibody.Sim
