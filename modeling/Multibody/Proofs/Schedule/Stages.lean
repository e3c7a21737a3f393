import Multibody.Proofs.Schedule.Pauses

/-!
# What the stages of a step leave alone

No stage of a step but the controllers touches the run's settings, its frame
or a body's controller state (`SimBody.controls`).  So `StepView`, blind to
everything else, is kept by every stage but the controllers when the
handlers keep it (`StepView.step_cases`).
-/

namespace Multibody.Sim

variable {τ σ : Type}

/-- The controller state of a simulation body: its slots, its held efforts,
and whether it holds them. -/
def SimBody.controls (sb : SimBody) : Array ControllerSlot × Array Float × Bool := (sb.slots, sb.frozen, sb.isFrozen)

/-- A view of a lab blind to what the stages of a step change besides the
controllers: it reads nothing the erasure forgets, nor the assembly, nor
what of the simulator is not the run, nor what of the run is not its
settings, its frame and its bodies' controller state. -/
structure StepView {α : Type} (v : Lab τ σ → α) : Prop where
  erase : ∀ lab : Lab τ σ, v lab.erase = v lab
  withAssembly : ∀ (lab : Lab τ σ) (a : Assembly), v (lab.withAssembly a) = v lab
  modifySim : ∀ (lab : Lab τ σ) (f : Simulator τ → Simulator τ), (∀ s, (f s).run = s.run) → v (lab.modifySim f) = v lab
  modifyRun : ∀ (lab : Lab τ σ) (f : Run → Run),
    (∀ r, (f r).cfg = r.cfg ∧ (f r).frame = r.frame ∧ (f r).bodies.map SimBody.controls = r.bodies.map SimBody.controls) →
      v (lab.modifyRun f) = v lab

namespace StepView

variable {α : Type} {v : Lab τ σ → α} (hv : StepView v) (lab : Lab τ σ)
include hv

theorem measure (f : Observe.Meter → Observe.Meter) : v (lab.measure f) = v lab := by
  rw [← hv.erase, Lab.erase_measure, hv.erase]

theorem flush : v lab.flush = v lab := by
  rw [← hv.erase, Lab.erase_flush, hv.erase]

theorem modifyBody (k : Nat) {f : SimBody → SimBody} (hf : ∀ sb, (f sb).controls = sb.controls) :
    v (lab.modifyBody k f) = v lab :=
  hv.modifyRun lab _ fun r => ⟨rfl, rfl, by
    show (r.bodies.modify k f).map SimBody.controls = _
    apply Array.ext (by simp)
    intro i h₁ h₂
    simp only [Array.getElem_map, Array.getElem_modify]
    split <;> simp [hf]⟩

theorem clearForces : v lab.clearForces = v lab := by
  unfold Lab.clearForces
  rw [← Array.foldl_toList]
  exact foldl_keeps v _ (fun l _ => hv.withAssembly l _) _ _

theorem applyPerturbations (p : Perturbations) : v (lab.applyPerturbations p) = v lab := by
  -- a timed force may start its clock: a change of the run that keeps its bodies
  have hlapsed : ∀ (l : Lab τ σ) now (f : ForceCommand), v (l.forceLapsed now f).1 = v l := by
    intro l now f
    unfold Lab.forceLapsed
    split
    · split
      · rfl
      · exact hv.modifyRun _ _ fun _ => ⟨rfl, rfl, rfl⟩
    · rfl
  have hforce : ∀ (l : Lab τ σ) now (f : ForceCommand), v (l.applyForce now f) = v l := by
    intro l now f
    unfold Lab.applyForce
    dsimp only
    split
    · rfl
    · split
      · rfl
      · split
        · rfl
        · have h := hlapsed l now f
          split <;> rename_i heq <;> rw [heq] at h
          · exact h
          · exact (hv.withAssembly _ _).trans h
  have hstring : ∀ (l : Lab τ σ) (s : StringCommand), v (l.applyString s) = v l := by
    intro l s
    unfold Lab.applyString
    dsimp only
    split
    · rfl
    · split
      · rfl
      · split
        · rfl
        · exact hv.withAssembly _ _
  unfold Lab.applyPerturbations
  dsimp only
  rw [← Array.foldl_toList, foldl_keeps v _ hstring, ← Array.foldl_toList,
    foldl_keeps v _ (fun l f => hforce l _ f)]

theorem holdForcedPoses (p : Perturbations) : v (lab.holdForcedPoses p) = v lab := by
  have hhold : ∀ (l : Lab τ σ) (fp : ForcedPose), v (l.holdForcedPose fp) = v l := by
    intro l fp
    unfold Lab.holdForcedPose
    dsimp only
    split
    · rfl
    · split
      · rfl
      · split
        · rfl
        · exact hv.withAssembly _ _
  unfold Lab.holdForcedPoses
  rw [← Array.foldl_toList]
  exact foldl_keeps v _ hhold _ _

theorem detectCollisions : v lab.detectCollisions = v lab := by
  unfold Lab.detectCollisions
  split
  · rfl
  · rename_i d _
    -- asking the detector changes the detector, or stops the run's detection
    have hquery : v (lab.queryDetector d).1 = v lab := by
      unfold Lab.queryDetector
      split
      · exact hv.modifyRun _ _ fun _ => ⟨rfl, rfl, rfl⟩
      · split
        dsimp only
        exact hv.modifySim _ _ fun _ => rfl
    split
    rename_i l pairs heq
    rw [heq] at hquery
    -- handing the contacts over changes the engine and the run's collisions
    have hcontacts : ∀ l' : Lab τ σ, v (l'.modifyRun fun r => { r with collisions := pairs }) = v l' :=
      fun l' => hv.modifyRun _ _ fun _ => ⟨rfl, rfl, rfl⟩
    have hengine : v (l.modifySim fun s => { s with backend := s.backend.map (·.setContacts pairs) }) = v l :=
      hv.modifySim _ _ fun _ => rfl
    unfold Lab.useContacts
    dsimp only
    rw [hcontacts]
    split
    · exact hengine.trans hquery
    · exact hquery

theorem advance : v lab.advance.1 = v lab := by
  unfold Lab.advance
  split
  · rfl
  · dsimp only
    split
    · rfl
    · rename_i a bk _ _
      -- the engine's new state is kept in the simulator, beside the run
      have hengine : v ((lab.withAssembly a).modifySim fun s => { s with backend := some bk }) = v (lab.withAssembly a) :=
        hv.modifySim _ _ fun _ => rfl
      exact hengine.trans (hv.withAssembly _ _)

theorem bufferAll : v lab.bufferAll = v lab := by
  have hbuf : ∀ (l : Lab τ σ) k frame t, v (l.bufferResults k frame t) = v l := by
    intro l k frame t
    unfold Lab.bufferResults
    exact hv.modifyBody _ _ fun _ => rfl
  unfold Lab.bufferAll
  dsimp only
  exact foldl_keeps v _ (fun l k => hbuf l k _ _) _ _

variable {h : Handlers τ σ}

theorem beginStep (hev : ∀ ev (l : Lab τ σ), v (h.event ev l) = v l) : v (lab.beginStep h) = v lab := by
  unfold Lab.beginStep
  dsimp only
  -- queued hook changes touch only the registries; a rebuilt active list only the activity
  have hhooks : ∀ l : Lab τ σ,
      v (l.modifySim fun s => { s with pre := s.pre.apply, mid := s.mid.apply, post := s.post.apply }) = v l :=
    fun l => hv.modifySim _ _ fun _ => rfl
  have hactive : ∀ l : Lab τ σ, v (l.modifyRun fun r => { r.rebuildActive with activityDirty := false }) = v l :=
    fun l => hv.modifyRun _ _ fun r => ⟨rfl, rfl, by simp [Run.rebuildActive, SimBody.controls, Function.comp_def]⟩
  split
  · rw [hev, hv.measure, hactive, hhooks]
  · exact hhooks lab

theorem holdRun (hev : ∀ ev (l : Lab τ σ), v (h.event ev l) = v l) : v (lab.holdRun h).1 = v lab := by
  unfold Lab.holdRun
  dsimp only
  split
  · rw [hev, hv.flush]
  · rw [hev, hev, hv.flush]

end StepView

namespace Lab

variable {h : Handlers τ σ}

theorem step_cases_after (P : Lab τ σ → Prop)
    (hclear : ∀ x, P x → P x.clearForces) (hpert : ∀ x p, P x → P (x.applyPerturbations p))
    (hhold : ∀ x p, P x → P (x.holdForcedPoses p)) (hctrl : ∀ x, P x → P x.runAllControllers)
    (hphase : ∀ x ph, P x → P (x.runPhase h ph).1) (hdetect : ∀ x, P x → P x.detectCollisions)
    (hadvance : ∀ x, P x → P x.advance.1) {lab : Lab τ σ} (h₀ : P (lab.beginStep h)) :
    ((lab.step h).2.isSome ∧ P (lab.step h).1) ∨ ∃ mid, P mid ∧ lab.step h = (mid.completeStep h, none) := by
  -- the stages before the hooks
  have hA : ∀ pert : Perturbations, P (if pert.isEmpty then (lab.beginStep h).clearForces
      else (((lab.beginStep h).clearForces).applyPerturbations pert).holdForcedPoses pert).runAllControllers := by
    intro pert
    apply hctrl
    split
    · exact hclear _ h₀
    · exact hhold _ _ (hpert _ _ (hclear _ h₀))
  have hP : ∀ {x l : Lab τ σ} {ph : Phase} {a : Option Failure}, x.runPhase h ph = (l, a) → P x → P l := by
    intro x l ph a heq hx
    have := hphase x ph hx
    rwa [heq] at this
  unfold step
  dsimp only
  -- one case split per stage that can fail: pre hooks, mid hooks, the engine, post hooks
  split
  · rename_i l₁ f heq₁
    exact Or.inl ⟨rfl, hP heq₁ (hA _)⟩
  rename_i l₁ heq₁
  split
  · rename_i l₂ f heq₂
    exact Or.inl ⟨rfl, hP heq₂ (hP heq₁ (hA _))⟩
  rename_i l₂ heq₂
  have h₂ := hP heq₂ (hP heq₁ (hA _))
  have hD : P (if l₂.run.detecting then l₂.detectCollisions else l₂) := by
    split
    · exact hdetect _ h₂
    · exact h₂
  split
  · rename_i l₃ f heq₃
    have := hadvance _ hD
    rw [heq₃] at this
    exact Or.inl ⟨rfl, this⟩
  rename_i l₃ heq₃
  have h₃ : P l₃ := by
    have := hadvance _ hD
    rwa [heq₃] at this
  have hH : ∀ pert : Perturbations, P (if pert.isEmpty then l₃ else l₃.holdForcedPoses pert) := by
    intro pert
    split
    · exact h₃
    · exact hhold _ _ h₃
  split
  · rename_i l₄ f heq₄
    exact Or.inl ⟨rfl, hP heq₄ (hH _)⟩
  · rename_i l₄ heq₄
    exact Or.inr ⟨l₄, hP heq₄ (hH _), rfl⟩

theorem step_cases_by (P : Lab τ σ → Prop) (hbegin : ∀ x, P x → P (x.beginStep h))
    (hclear : ∀ x, P x → P x.clearForces) (hpert : ∀ x p, P x → P (x.applyPerturbations p))
    (hhold : ∀ x p, P x → P (x.holdForcedPoses p)) (hctrl : ∀ x, P x → P x.runAllControllers)
    (hphase : ∀ x ph, P x → P (x.runPhase h ph).1) (hdetect : ∀ x, P x → P x.detectCollisions)
    (hadvance : ∀ x, P x → P x.advance.1) {lab : Lab τ σ} (hp : P lab) :
    ((lab.step h).2.isSome ∧ P (lab.step h).1) ∨ ∃ mid, P mid ∧ lab.step h = (mid.completeStep h, none) :=
  step_cases_after P hclear hpert hhold hctrl hphase hdetect hadvance (hbegin _ hp)

theorem loop_induction (P : Lab τ σ → Prop) (hstep : ∀ x, P x → P (x.step h).1)
    (hhold : ∀ x, P x → P (x.holdRun h).1) (hmeasure : ∀ x, P x → P (x.measure (·.observeStep 0))) :
    ∀ (fuel : Nat) (lab : Lab τ σ), P lab → P (loop h fuel lab).1
  | 0, _, hp => hp
  | fuel + 1, lab, hp => by
    unfold loop
    split
    · exact hp
    split
    · -- a hold goes on, or ends the run where it stands
      have hl := hhold lab hp
      split <;> rename_i l heq <;> rw [heq] at hl
      · exact loop_induction P hstep hhold hmeasure fuel l hl
      · exact hl
    · -- a step fails and ends the run, or goes through and is timed
      have hl := hstep lab hp
      split
      · rename_i l e heq
        rw [heq] at hl
        exact hl
      · rename_i l heq
        rw [heq] at hl
        dsimp only
        split
        · exact hmeasure l hl
        · exact loop_induction P hstep hhold hmeasure fuel _ (hmeasure l hl)

end Lab

theorem StepView.step_cases {α : Type} {v : Lab τ σ → α} (hv : StepView v) {h : Handlers τ σ}
    (hhook : ∀ id task (l : Lab τ σ), v (h.hook id task l).1 = v l) (hev : ∀ ev (l : Lab τ σ), v (h.event ev l) = v l)
    (P : Lab τ σ → Prop) (hP : ∀ x y, v y = v x → P x → P y) (hctrl : ∀ x, P x → P x.runAllControllers)
    {lab : Lab τ σ} (hp : P lab) :
    ((lab.step h).2.isSome ∧ P (lab.step h).1) ∨ ∃ mid, P mid ∧ lab.step h = (mid.completeStep h, none) :=
  Lab.step_cases_by P (fun x hx => hP x _ (hv.beginStep x hev) hx) (fun x hx => hP x _ (hv.clearForces x) hx)
    (fun x p hx => hP x _ (hv.applyPerturbations x p) hx) (fun x p hx => hP x _ (hv.holdForcedPoses x p) hx) hctrl
    (fun x ph hx => hP x _ (Lab.runPhase_keeps x v hhook ph) hx) (fun x hx => hP x _ (hv.detectCollisions x) hx)
    (fun x hx => hP x _ (hv.advance x) hx) hp

end Multibody.Sim
