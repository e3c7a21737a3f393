import Multibody.Proofs.Recording.Records

/-!
# What a start that fails leaves behind

A failed start runs no hook, tells no observer, changes no item, state or
registry and leaves no run (`Lab.start_of_setup_failure`).  It is not atomic for
the clock: once the checks pass, the setup sets the time step and the frame
before the steps that can still fail.  `StartView` collects what every
stage of the setup keeps.
-/

namespace Multibody.Sim

variable {τ σ : Type}

/-- What a failed start is to leave as it was: the items, the simulator's
state, its hook registries, its run, its simulation and last frames, and its
clock. -/
structure StartView (τ : Type) where
  items : Array BodyItem
  state : SimState
  pre : HookRegistry τ
  mid : HookRegistry τ
  post : HookRegistry τ
  run : Option Run
  simFrame : Int
  lastFrame : Int
  currentFrame : Int
  runTimeStep : Float

namespace Lab

/-- The view of a lab that a failed start is to keep. -/
def startView (lab : Lab τ σ) : StartView τ :=
  ⟨lab.items, lab.sim.state, lab.sim.pre, lab.sim.mid, lab.sim.post, lab.sim.run, lab.sim.simFrame,
   lab.sim.lastFrame, lab.sim.currentFrame, lab.sim.runTimeStep⟩

variable (lab : Lab τ σ)

@[simp] theorem startView_trace (span : Observe.Span) : (lab.trace span).startView = lab.startView := rfl

@[simp] theorem startView_withAssembly (a : Assembly) : (lab.withAssembly a).startView = lab.startView := rfl

theorem startView_applyStates (pairs : List (Nat × BodyId)) :
    (lab.applyStates pairs).startView = lab.startView := by
  unfold applyStates
  apply foldl_keeps
  intro lab p
  obtain ⟨i, c⟩ := p
  dsimp only
  split
  · split <;> rfl
  · rfl

theorem startView_initController (cfg : Config) (clone : BodyId) (att : Attachment) :
    (initController cfg clone att lab).1.startView = lab.startView := by
  unfold initController
  split <;> rfl

theorem startView_prepareSlots (cfg : Config) (bi : BodyItem) (clone : BodyId) :
    ∀ (atts : List Attachment) (lab : Lab τ σ) (slots : Array ControllerSlot),
      (prepareSlots cfg bi clone atts lab slots).1.startView = lab.startView
  | [], _, _ => rfl
  | att :: rest, lab, slots => by
    have hinit := lab.startView_initController cfg clone att
    unfold prepareSlots
    dsimp only
    split
    · split <;> exact hinit
    · exact (startView_prepareSlots cfg bi clone rest _ _).trans hinit

theorem startView_prepareBodies (cfg : Config) :
    ∀ (pairs : List (Nat × BodyId)) (lab : Lab τ σ) (bodies : Array SimBody),
      (prepareBodies cfg pairs lab bodies).1.startView = lab.startView
  | [], _, _ => rfl
  | (i, c) :: rest, lab, bodies => by
    have hprep := startView_prepareSlots cfg (lab.items.getD i default) c
      (lab.items.getD i default).controllers.toList lab #[]
    unfold prepareBodies prepareControllers
    split
    · rename_i heq
      rw [heq] at hprep
      exact hprep
    · rename_i lab₁ heq
      rw [heq] at hprep
      exact (startView_prepareBodies cfg rest lab₁ bodies).trans hprep
    · rename_i lab₁ slots heq
      rw [heq] at hprep
      exact (startView_prepareBodies cfg rest lab₁ _).trans hprep

theorem startView_resolveDetector :
    { lab.resolveDetector.startView with run := none } = { lab.startView with run := none } := by
  unfold resolveDetector
  dsimp only
  split
  · rfl
  · split
    · rfl
    · split <;> rfl

theorem startView_launch_of_failure {cfg : Config} {backend : Dynamics.Backend} {reset : Bool}
    {startFrame : Int} {bodies : Array SimBody} (hs : (lab.launch cfg backend reset startFrame bodies).2.isSome) :
    (lab.launch cfg backend reset startFrame bodies).1.startView = { lab.startView with run := none } := by
  unfold launch at hs ⊢
  dsimp only at hs ⊢
  rcases hb : backend.begin (if bodies.isEmpty then none else some cfg.timeStep) with msg | ⟨bk, _ | _⟩
  · rfl
  · rfl
  · simp only [hb] at hs
    simp at hs

theorem startView_setupWith_of_failure {cfg : Config} {backend : Dynamics.Backend} {reset : Bool}
    (hrun : lab.sim.run = none) (hs : (lab.setupWith cfg backend reset).2.isSome) :
    (lab.setupWith cfg backend reset).1.startView =
      { lab.startView with currentFrame := if reset then 0 else lab.sim.lastFrame,
                           runTimeStep := cfg.timeStep } := by
  unfold setupWith at hs ⊢
  dsimp only at hs ⊢
  split at hs
  · -- cloning failed
    rfl
  · split at hs
    · -- a required controller failed
      rename_i lab₂ f heqp
      have hprep := congrArg (fun p => p.1.startView) heqp
      simp only [startView_prepareBodies, apply_ite Lab.startView, startView_withAssembly,
        startView_applyStates, ite_self] at hprep
      dsimp only
      rw [← hprep]
      rfl
    · -- the engine refused the run
      rename_i lab₂ bodies heqp
      have hprep := congrArg (fun p => p.1.startView) heqp
      simp only [startView_prepareBodies, apply_ite Lab.startView, startView_withAssembly,
        startView_applyStates, ite_self] at hprep
      rw [startView_launch_of_failure _ hs, startView_resolveDetector]
      change { lab₂.startView with run := none } = _
      rw [← hprep]
      unfold startView
      rw [hrun]
      rfl

theorem startView_setup_of_failure {reset : Bool} (hrun : lab.sim.run = none)
    (hs : (lab.setup reset).2.isSome) :
    (lab.setup reset).1.startView =
      if lab.sim.cfg.validate.isNone && lab.sim.backend.isSome && lab.sim.hasWorld then
        { lab.startView with currentFrame := if reset then 0 else lab.sim.lastFrame,
                             runTimeStep := lab.sim.cfg.timeStep }
      else lab.startView := by
  unfold setup at hs ⊢
  dsimp only at hs ⊢
  split
  · -- the settings are refused
    rename_i hv
    simp [hv]
  · -- there is no engine
    rename_i hb
    simp [hb]
  · rename_i hv hb
    split
    · -- the checks passed: the rest of the setup failed
      rename_i hw
      simp only [hv, hb, hw, ↓reduceIte] at hs
      simp only [hv, hb, hw, Option.isNone_none, Option.isSome_some, Bool.and_self, ↓reduceIte]
      exact startView_setupWith_of_failure lab hrun hs
    · -- there is no world
      rename_i hw
      simp [hw]

theorem start_of_setup_failure {reset : Bool} {f : Failure} (hrun : lab.sim.run = none)
    (hs : (lab.setup reset).2 = some f) (h : Handlers τ σ) (fuel : Nat) :
    lab.start h fuel reset =
      ((lab.setup reset).1.trace (Observe.Span.fail
        { name := "sim.StartSimulation", scope := Observe.simScope, attributes := [("sim.reset", .bool reset)] }
        f.message "*fmt.wrapErrors"), some f) := by
  unfold start
  rw [if_neg (by simp [hrun])]
  dsimp only
  rcases hsetup : lab.setup reset with ⟨lab₁, _ | f'⟩
  · rw [hsetup] at hs
    simp at hs
  · rw [hsetup] at hs
    cases hs
    rfl

theorem setup_failure_of_start {h : Handlers τ σ} {fuel : Nat} {reset : Bool} (hrun : lab.sim.run = none)
    (hf : (lab.start h fuel reset).2.isSome) : ∃ f, (lab.setup reset).2 = some f := by
  unfold start at hf
  rw [if_neg (by simp [hrun])] at hf
  dsimp only at hf
  rcases hsetup : lab.setup reset with ⟨lab₁, _ | f⟩
  · rw [hsetup] at hf
    simp at hf
  · exact ⟨f, rfl⟩

end Lab

end Multibody.Sim
