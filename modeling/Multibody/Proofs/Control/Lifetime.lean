import Multibody.Proofs.Control.Failures

/-!
# A controller's part in a run

A start stops every controller it initialized before it returns, on every
path, so counted per controller it stops each exactly as often as it
initialized it (`balance_start`).  Preparing slots raises `balance`,
stopping them settles it, and the run in between touches no tally
(`Lab.loop_controlsFollow`).  `controller_failures_are_contained` gathers
how a run treats its controllers.
-/
namespace Multibody.Sim

variable {τ σ : Type}

open Control (Controller)

/-- The controllers of some slots, in slot order. -/
def controllerIds (slots : Array ControllerSlot) : List Nat := slots.toList.map (·.controller)

/-- How many slots of some bodies hold controller `i`. -/
def bodyCount (bodies : Array SimBody) (i : Nat) : Nat := (bodies.toList.map fun sb => (controllerIds sb.slots).count i).sum

/-- How many more times controller `i` was initialized than stopped. -/
def balance (cs : Array Controller) (i : Nat) : Int := ((cs.getD i default).inits : Int) - (cs.getD i default).stops

/-- The slots a preparation started and left running: all of them when it
went through, none when it failed or left the body out. -/
def startedSlots : Except Failure (Option (Array ControllerSlot)) → Array ControllerSlot
  | .ok (some slots) => slots
  | _ => #[]

/-- The bodies a preparation made and left running: none when it failed. -/
def startedBodies : Except Failure (Array SimBody) → Array SimBody
  | .ok bodies => bodies
  | .error _ => #[]

@[simp] theorem controllerIds_push (slots : Array ControllerSlot) (s : ControllerSlot) :
    controllerIds (slots.push s) = controllerIds slots ++ [s.controller] := by
  simp [controllerIds]

@[simp] theorem bodyCount_push (bodies : Array SimBody) (sb : SimBody) (i : Nat) :
    bodyCount (bodies.push sb) i = bodyCount bodies i + (controllerIds sb.slots).count i := by
  simp [bodyCount]

@[simp] theorem bodyCount_empty (i : Nat) : bodyCount #[] i = 0 := rfl

/-! ## Stopping -/

section Balance

variable {i : Nat}

theorem balance_of_tallies {cs cs' : Array Controller} (h : cs'.map Controller.tally = cs.map Controller.tally) :
    balance cs' i = balance cs i := by
  have := congrArg (·[i]?) h
  simp only [Array.getElem?_map] at this
  unfold balance
  simp only [Array.getD_eq_getD_getElem?]
  cases h₁ : cs'[i]? <;> cases h₂ : cs[i]? <;> simp_all [Controller.tally]

theorem balance_of_size_le {cs : Array Controller} (hi : cs.size ≤ i) : balance cs i = 0 := by
  unfold balance
  rw [Array.getD_eq_getD_getElem?, Array.getElem?_eq_none hi]
  rfl

theorem balance_modify_stop {cs : Array Controller} (j : Nat) (hi : i < cs.size) :
    balance (cs.modify j Controller.stop) i = balance cs i - if j = i then 1 else 0 := by
  unfold balance
  simp only [Array.getD_eq_getD_getElem?, Array.getElem?_modify, Array.getElem?_eq_getElem hi]
  by_cases hj : j = i
  · simp only [hj, if_true, Option.map_some, Option.getD_some, Controller.stop]
    push_cast
    ring
  · simp [hj]

theorem balance_stopIds : ∀ (js : List Nat) (cs : Array Controller),
    (js.foldl (fun cs j => cs.modify j Controller.stop) cs).size = cs.size ∧
      (i < cs.size → balance (js.foldl (fun cs j => cs.modify j Controller.stop) cs) i = balance cs i - js.count i)
  | [], cs => ⟨rfl, fun _ => by simp⟩
  | j :: js, cs => by
    obtain ⟨hs, hb⟩ := balance_stopIds js (cs.modify j Controller.stop)
    refine ⟨hs.trans Array.size_modify, fun hi => ?_⟩
    rw [List.foldl_cons, hb (by simpa using hi), balance_modify_stop j hi, List.count_cons]
    by_cases hj : j = i
    · simp only [hj, if_true, beq_self_eq_true]
      push_cast
      ring
    · simp [hj]

theorem stopAll_eq (cs : Array Controller) (slots : Array ControllerSlot) :
    Lab.stopAll cs slots = (controllerIds slots).foldl (fun cs j => cs.modify j Controller.stop) cs := by
  unfold Lab.stopAll controllerIds
  rw [← Array.foldl_toList, List.foldl_map]

theorem balance_stopAll (cs : Array Controller) (slots : Array ControllerSlot) :
    (Lab.stopAll cs slots).size = cs.size ∧
      (i < cs.size → balance (Lab.stopAll cs slots) i = balance cs i - (controllerIds slots).count i) := by
  rw [stopAll_eq]
  exact balance_stopIds _ cs

theorem balance_stopBodies (lab : Lab τ σ) (bodies : Array SimBody) :
    (lab.stopBodies bodies).controllers.size = lab.controllers.size ∧
      (i < lab.controllers.size →
        balance (lab.stopBodies bodies).controllers i = balance lab.controllers i - bodyCount bodies i) := by
  unfold Lab.stopBodies bodyCount
  dsimp only
  rw [← Array.foldl_toList]
  generalize lab.controllers = cs
  induction bodies.toList generalizing cs with
  | nil => exact ⟨rfl, fun _ => by simp⟩
  | cons sb rest ih =>
    obtain ⟨hs₁, hb₁⟩ := balance_stopAll (i := i) cs sb.slots
    obtain ⟨hs₂, hb₂⟩ := ih (Lab.stopAll cs sb.slots)
    refine ⟨hs₂.trans hs₁, fun hi => ?_⟩
    rw [List.foldl_cons, hb₂ (hs₁ ▸ hi), hb₁ hi, List.map_cons, List.sum_cons]
    push_cast
    ring

end Balance

/-! ## Starting -/

section Preparation

variable {i : Nat} (cfg : Config)

theorem balance_initController (clone : BodyId) (att : Attachment) (lab : Lab τ σ) :
    (Lab.initController cfg clone att lab).1.controllers.size = lab.controllers.size ∧
      (i < lab.controllers.size → balance (Lab.initController cfg clone att lab).1.controllers i =
        balance lab.controllers i + if (Lab.initController cfg clone att lab).2.1 = true ∧ att.controller = i then 1 else 0) := by
  unfold Lab.initController
  split
  · rename_i c' ok hprep
    refine ⟨by simp, fun hi => ?_⟩
    -- the prepared controller has the tally of the one it replaces
    have ht := Controller.tally_of_prepare hprep
    unfold balance
    simp only [Array.set!_eq_setIfInBounds, Array.getD_eq_getD_getElem?, Array.getElem?_setIfInBounds,
      Array.getElem?_eq_getElem hi]
    by_cases hj : att.controller = i
    · subst hj
      rw [Array.getD_eq_getD_getElem?, Array.getElem?_eq_getElem hi] at ht
      have hin : c'.inits = (lab.controllers[att.controller]).inits := congrArg Prod.fst ht
      have hst : c'.stops = (lab.controllers[att.controller]).stops := congrArg Prod.snd ht
      cases ok
      · simp [hi, hin, hst]
      · simp only [hi, if_true, Option.getD_some, Controller.initialized, hin, hst, and_self]
        push_cast
        ring
    · simp [hj]
  · exact ⟨rfl, fun _ => by simp⟩

theorem balance_prepareSlots (bi : BodyItem) (clone : BodyId) :
    ∀ (atts : List Attachment) (lab : Lab τ σ) (slots : Array ControllerSlot),
      (Lab.prepareSlots cfg bi clone atts lab slots).1.controllers.size = lab.controllers.size ∧
        (i < lab.controllers.size →
          balance (Lab.prepareSlots cfg bi clone atts lab slots).1.controllers i -
              (controllerIds (startedSlots (Lab.prepareSlots cfg bi clone atts lab slots).2)).count i =
            balance lab.controllers i - (controllerIds slots).count i)
  | [], _, _ => ⟨rfl, fun _ => rfl⟩
  | att :: rest, lab, slots => by
    obtain ⟨hs₁, hb₁⟩ := balance_initController (i := i) cfg clone att lab
    unfold Lab.prepareSlots
    dsimp only
    generalize Lab.initController cfg clone att lab = r at hs₁ hb₁ ⊢
    obtain ⟨lab₁, ok, err⟩ := r
    dsimp only at hs₁ hb₁ ⊢
    cases ok
    · -- the controller did not start: the ones started before it are stopped
      obtain ⟨hs₂, hb₂⟩ := balance_stopAll (i := i) lab₁.controllers slots
      simp only [Bool.not_false, if_true]
      split
      all_goals
        refine ⟨hs₂.trans hs₁, fun hi => ?_⟩
        simp only [Lab.stopSlots, startedSlots, controllerIds, Array.toList_empty, List.map_nil, List.count_nil,
          Nat.cast_zero, sub_zero]
        rw [hb₂ (hs₁ ▸ hi), hb₁ hi]
        simp [controllerIds]
    · -- it started: its slot joins the ones left running
      simp only [Bool.not_true, Bool.false_eq_true, if_false]
      obtain ⟨hs₂, hb₂⟩ := balance_prepareSlots bi clone rest lab₁ (slots.push { controller := att.controller, required := att.required })
      refine ⟨hs₂.trans hs₁, fun hi => ?_⟩
      rw [hb₂ (hs₁ ▸ hi), hb₁ hi, controllerIds_push, List.count_append, List.count_singleton]
      by_cases hj : att.controller = i
      · simp only [hj, and_self, if_true, beq_self_eq_true]
        push_cast
        ring
      · simp [hj]

theorem balance_prepareBodies :
    ∀ (pairs : List (Nat × BodyId)) (lab : Lab τ σ) (bodies : Array SimBody),
      (Lab.prepareBodies cfg pairs lab bodies).1.controllers.size = lab.controllers.size ∧
        (i < lab.controllers.size →
          balance (Lab.prepareBodies cfg pairs lab bodies).1.controllers i -
              bodyCount (startedBodies (Lab.prepareBodies cfg pairs lab bodies).2) i =
            balance lab.controllers i - bodyCount bodies i)
  | [], _, _ => ⟨rfl, fun _ => rfl⟩
  | (j, c) :: rest, lab, bodies => by
    obtain ⟨hs₁, hb₁⟩ := balance_prepareSlots (i := i) cfg (lab.items.getD j default) c
      (lab.items.getD j default).controllers.toList lab #[]
    unfold Lab.prepareBodies Lab.prepareControllers
    split
    · -- a required controller failed: the bodies made so far are stopped
      rename_i lab₁ f heq
      rw [heq] at hs₁ hb₁
      obtain ⟨hs₂, hb₂⟩ := balance_stopBodies (i := i) lab₁ bodies
      refine ⟨hs₂.trans hs₁, fun hi => ?_⟩
      have h₁ := hb₁ hi
      simp only [startedSlots, controllerIds, List.map_nil, List.count_nil, Nat.cast_zero, sub_zero] at h₁
      simp only [startedBodies, bodyCount_empty, Nat.cast_zero, sub_zero]
      rw [hb₂ (hs₁ ▸ hi), h₁]
    · -- the body is left out
      rename_i lab₁ heq
      rw [heq] at hs₁ hb₁
      obtain ⟨hs₂, hb₂⟩ := balance_prepareBodies rest lab₁ bodies
      refine ⟨hs₂.trans hs₁, fun hi => ?_⟩
      have h₁ := hb₁ hi
      simp only [startedSlots, controllerIds, List.map_nil, List.count_nil, Nat.cast_zero, sub_zero] at h₁
      rw [hb₂ (hs₁ ▸ hi), h₁]
    · -- the body takes part, its slots running
      rename_i lab₁ slots heq
      rw [heq] at hs₁ hb₁
      obtain ⟨hs₂, hb₂⟩ := balance_prepareBodies rest lab₁ _
      refine ⟨hs₂.trans hs₁, fun hi => ?_⟩
      have h₁ := hb₁ hi
      simp only [startedSlots, controllerIds, List.map_nil, List.count_nil, Nat.cast_zero, sub_zero] at h₁
      rw [hb₂ (hs₁ ▸ hi), bodyCount_push]
      push_cast
      unfold controllerIds
      linarith

theorem balance_of_prepareBodies {pairs : List (Nat × BodyId)} {lab lab' : Lab τ σ} {bodies : Array SimBody}
    {r : Except Failure (Array SimBody)} (h : Lab.prepareBodies cfg pairs lab bodies = (lab', r)) :
    lab'.controllers.size = lab.controllers.size ∧
      (i < lab.controllers.size →
        balance lab'.controllers i - bodyCount (startedBodies r) i = balance lab.controllers i - bodyCount bodies i) := by
  have := balance_prepareBodies (i := i) cfg pairs lab bodies
  rw [h] at this
  exact this

end Preparation

section Setup

variable {i : Nat} (lab : Lab τ σ)

@[simp] theorem controllers_modifySim (f : Simulator τ → Simulator τ) : (lab.modifySim f).controllers = lab.controllers :=
  rfl

@[simp] theorem controllers_withAssembly (a : Assembly) : (lab.withAssembly a).controllers = lab.controllers := rfl

theorem controllers_applyStates (pairs : List (Nat × BodyId)) : (lab.applyStates pairs).controllers = lab.controllers := by
  unfold Lab.applyStates
  apply foldl_keeps
  intro lab p
  obtain ⟨i, c⟩ := p
  dsimp only
  split
  · split <;> rfl
  · rfl

theorem resolveDetector_keeps :
    lab.resolveDetector.controllers = lab.controllers ∧ lab.resolveDetector.run.bodies = lab.run.bodies := by
  unfold Lab.resolveDetector
  dsimp only
  split
  · exact ⟨rfl, rfl⟩
  · split
    · exact ⟨rfl, rfl⟩
    · split
      · exact ⟨rfl, rfl⟩
      · -- the run now detects collisions; its bodies stay
        refine ⟨rfl, ?_⟩
        apply (Lab.run_modifyRun_of _ ?_ ?_).1 <;> intro _ <;> rfl

@[simp] theorem bodyCount_rebuildActive (r : Run) (i : Nat) : bodyCount r.rebuildActive.bodies i = bodyCount r.bodies i := by
  simp [bodyCount, Run.rebuildActive, Function.comp_def]

theorem openRecordings_keeps (reset : Bool) (capacity : Int) (bodies : Array SimBody) :
    (lab.openRecordings reset capacity bodies).controllers = lab.controllers ∧
      (lab.openRecordings reset capacity bodies).run = lab.run := by
  unfold Lab.openRecordings
  rw [← Array.foldl_toList]
  have := foldl_keeps (fun l : Lab τ σ => (l.controllers, l.run))
    (fun lab (sb : SimBody) => lab.modifyItem sb.item fun bi =>
      let bi := if reset then bi.resetState else bi
      { bi with recording := bi.recording.setCapacity capacity }) (fun _ _ => rfl) bodies.toList lab
  exact Prod.ext_iff.1 this

theorem balance_launch (cfg : Config) (backend : Dynamics.Backend) (reset : Bool) (startFrame : Int)
    (bodies : Array SimBody) :
    (lab.launch cfg backend reset startFrame bodies).1.controllers.size = lab.controllers.size ∧
      (i < lab.controllers.size → (lab.launch cfg backend reset startFrame bodies).2 = none →
        balance (lab.launch cfg backend reset startFrame bodies).1.controllers i = balance lab.controllers i ∧
          (lab.launch cfg backend reset startFrame bodies).1.run.bodies = lab.run.bodies) ∧
      (i < lab.controllers.size → (lab.launch cfg backend reset startFrame bodies).2 ≠ none →
        balance (lab.launch cfg backend reset startFrame bodies).1.controllers i =
          balance lab.controllers i - bodyCount bodies i) := by
  obtain ⟨hs, hb⟩ := balance_stopBodies (i := i) lab bodies
  unfold Lab.launch
  dsimp only
  split
  all_goals
    split
    · -- refused: the bodies' controllers are stopped and the run dropped
      exact ⟨hs, fun _ h => absurd h (by simp), fun hi _ => hb hi⟩
    · -- accepted: the recordings open and the controllers keep running
      refine ⟨?_, fun _ _ => ⟨?_, ?_⟩, fun _ h => absurd rfl h⟩
      · exact congrArg Array.size (openRecordings_keeps _ _ _ _).1
      · exact congrArg (balance · i) (openRecordings_keeps _ _ _ _).1
      · exact congrArg Run.bodies (openRecordings_keeps _ _ _ _).2

theorem balance_launch_of {L : Lab τ σ} (cfg : Config) (backend : Dynamics.Backend) (reset : Bool) (startFrame : Int)
    (bodies : Array SimBody) (hs : L.controllers.size = lab.controllers.size)
    (hb : i < lab.controllers.size → balance L.controllers i = balance lab.controllers i + bodyCount bodies i)
    (hbodies : bodyCount L.run.bodies i = bodyCount bodies i) :
    (L.launch cfg backend reset startFrame bodies).1.controllers.size = lab.controllers.size ∧
      (i < lab.controllers.size → (L.launch cfg backend reset startFrame bodies).2 = none →
        balance (L.launch cfg backend reset startFrame bodies).1.controllers i =
          balance lab.controllers i + bodyCount (L.launch cfg backend reset startFrame bodies).1.run.bodies i) ∧
      (i < lab.controllers.size → (L.launch cfg backend reset startFrame bodies).2 ≠ none →
        balance (L.launch cfg backend reset startFrame bodies).1.controllers i = balance lab.controllers i) := by
  obtain ⟨hs₁, hn, hr⟩ := balance_launch (i := i) L cfg backend reset startFrame bodies
  refine ⟨hs₁.trans hs, fun hi hnone => ?_, fun hi hsome => ?_⟩
  · obtain ⟨hbal, hbod⟩ := hn (hs ▸ hi) hnone
    rw [hbal, hbod, hbodies, hb hi]
  · rw [hr (hs ▸ hi) hsome, hb hi]
    ring

theorem balance_setupWith (cfg : Config) (backend : Dynamics.Backend) (reset : Bool) :
    (lab.setupWith cfg backend reset).1.controllers.size = lab.controllers.size ∧
      (i < lab.controllers.size → (lab.setupWith cfg backend reset).2 = none →
        balance (lab.setupWith cfg backend reset).1.controllers i =
          balance lab.controllers i + bodyCount (lab.setupWith cfg backend reset).1.run.bodies i) ∧
      (i < lab.controllers.size → (lab.setupWith cfg backend reset).2 ≠ none →
        balance (lab.setupWith cfg backend reset).1.controllers i = balance lab.controllers i) := by
  unfold Lab.setupWith
  dsimp only
  split
  · -- cloning failed before any controller was initialized
    exact ⟨rfl, fun _ h => absurd h (by simp), fun _ _ => rfl⟩
  · split
    · -- a required controller failed: the ones started are stopped
      rename_i lab₃ f heqp
      obtain ⟨hs, hb⟩ := balance_of_prepareBodies (i := i) cfg heqp
      simp only [controllers_withAssembly, apply_ite Lab.controllers, controllers_applyStates, controllers_modifySim,
        ite_self] at hs hb
      refine ⟨hs, fun _ h => absurd h (by simp), fun hi _ => ?_⟩
      simpa [startedBodies] using hb hi
    · -- the bodies are made with their controllers running; the engine answers
      rename_i lab₃ bodies heqp
      obtain ⟨hs, hb⟩ := balance_of_prepareBodies (i := i) cfg heqp
      simp only [controllers_withAssembly, apply_ite Lab.controllers, controllers_applyStates, controllers_modifySim,
        ite_self] at hs hb
      refine balance_launch_of lab cfg backend reset _ bodies ?_ (fun hi => ?_) ?_
      · rw [(resolveDetector_keeps _).1]
        exact hs
      · rw [(resolveDetector_keeps _).1]
        have := hb hi
        simp only [startedBodies, bodyCount_empty, Nat.cast_zero, sub_zero] at this
        show balance lab₃.controllers i = _
        linarith
      · rw [(resolveDetector_keeps _).2]
        exact bodyCount_rebuildActive _ i

theorem balance_setup (reset : Bool) :
    (lab.setup reset).1.controllers.size = lab.controllers.size ∧
      (i < lab.controllers.size → (lab.setup reset).2 = none →
        balance (lab.setup reset).1.controllers i = balance lab.controllers i + bodyCount (lab.setup reset).1.run.bodies i) ∧
      (i < lab.controllers.size → (lab.setup reset).2 ≠ none →
        balance (lab.setup reset).1.controllers i = balance lab.controllers i) := by
  unfold Lab.setup
  dsimp only
  split
  · exact ⟨rfl, fun _ h => absurd h (by simp), fun _ _ => rfl⟩
  · exact ⟨rfl, fun _ h => absurd h (by simp), fun _ _ => rfl⟩
  · split
    · exact balance_setupWith lab _ _ reset
    · exact ⟨rfl, fun _ h => absurd h (by simp), fun _ _ => rfl⟩

end Setup

/-! ## The run -/

section Run

variable {h : Handlers τ σ} {i : Nat}

theorem bodyCount_eq (bodies : Array SimBody) (i : Nat) :
    bodyCount bodies i = ((bodies.toList.map fun sb => controllerIds sb.slots).map (List.count i)).sum := by
  simp [bodyCount, Function.comp_def]

theorem Lab.ControlsFollow.controllerIds {lab lab' : Lab τ σ} (hf : lab.ControlsFollow lab') :
    lab'.run.bodies.toList.map (fun sb => controllerIds sb.slots) =
      lab.run.bodies.toList.map (fun sb => controllerIds sb.slots) := by
  apply List.ext_getElem (by simp [hf.size])
  intro k h₁ h₂
  simp only [List.getElem_map, Array.getElem_toList]
  have hk₁ : k < lab'.run.bodies.size := by simpa using h₁
  have hk₂ : k < lab.run.bodies.size := by simpa using h₂
  rw [← Lab.simBody_eq_getElem lab' hk₁, ← Lab.simBody_eq_getElem lab hk₂]
  unfold Multibody.Sim.controllerIds
  apply List.ext_getElem (by simp [hf.slots k])
  intro si g₁ g₂
  simp only [List.getElem_map, Array.getElem_toList]
  have := hf.controller k si
  unfold Lab.slotAt at this
  rwa [Array.getD_eq_getD_getElem?, Array.getElem?_eq_getElem (by simpa using g₁), Option.getD_some,
    Array.getD_eq_getD_getElem?, Array.getElem?_eq_getElem (by simpa using g₂), Option.getD_some] at this

/-- Controller `i` stands in `lab` as it stood in `lab₀` but for the slots of
the run's bodies that hold it, each initialized and still to be stopped. -/
def OwesStops (lab₀ lab : Lab τ σ) (i : Nat) : Prop :=
  lab.controllers.size = lab₀.controllers.size ∧
    (i < lab₀.controllers.size → balance lab.controllers i = balance lab₀.controllers i + bodyCount lab.run.bodies i)

namespace OwesStops

variable {lab₀ lab lab' : Lab τ σ}

theorem follow (ho : OwesStops lab₀ lab i) (hf : lab.ControlsFollow lab') : OwesStops lab₀ lab' i := by
  have hsize : lab'.controllers.size = lab.controllers.size := by
    simpa using congrArg Array.size hf.tallies
  refine ⟨hsize.trans ho.1, fun hi => ?_⟩
  rw [balance_of_tallies hf.tallies, ho.2 hi, bodyCount_eq, bodyCount_eq, hf.controllerIds]

theorem of_controls (ho : OwesStops lab₀ lab i) (hc : lab'.controls = lab.controls) : OwesStops lab₀ lab' i :=
  ho.follow (Lab.ControlsFollow.of_controls hc)

theorem teardown (hk : h.KeepsControls) (ho : OwesStops lab₀ lab i) (finish : FinishInfo) :
    (lab.teardown h finish).controllers.size = lab₀.controllers.size ∧
      (i < lab₀.controllers.size → balance (lab.teardown h finish).controllers i = balance lab₀.controllers i) := by
  -- what is published first keeps the controller state
  have hfl : OwesStops lab₀ lab.flush i := ho.of_controls (controls_stepView.flush lab)
  obtain ⟨hs, hb⟩ := balance_stopBodies (i := i) lab.flush lab.flush.run.bodies
  -- so does everything after the stops, the observers included
  have hobs : ∀ ev (l : Lab τ σ), (h.event ev l).controllers.map Controller.tally = l.controllers.map Controller.tally :=
    fun ev l => congrArg Prod.snd (hk.2 ev l)
  have hsize : ∀ ev (l : Lab τ σ), (h.event ev l).controllers.size = l.controllers.size := fun ev l => by
    simpa using congrArg Array.size (hobs ev l)
  unfold Lab.teardown
  dsimp only
  rw [hsize, balance_of_tallies (hobs _ _)]
  split
  all_goals
    refine ⟨hs.trans hfl.1, fun hi => ?_⟩
    show balance (lab.flush.stopBodies lab.flush.run.bodies).controllers i = _
    rw [hb (hfl.1 ▸ hi), hfl.2 hi]
    ring

end OwesStops

theorem balance_start (hk : h.KeepsControls) (fuel : Nat) (reset : Bool) (lab : Lab τ σ) :
    (lab.start h fuel reset).1.controllers.size = lab.controllers.size ∧
      balance (lab.start h fuel reset).1.controllers i = balance lab.controllers i := by
  -- out of range there is nothing to count
  suffices hs : (lab.start h fuel reset).1.controllers.size = lab.controllers.size ∧
      (i < lab.controllers.size → balance (lab.start h fuel reset).1.controllers i = balance lab.controllers i) by
    refine ⟨hs.1, ?_⟩
    by_cases hi : i < lab.controllers.size
    · exact hs.2 hi
    · rw [balance_of_size_le (by omega), balance_of_size_le (by omega)]
  obtain ⟨hs, hnone, hsome⟩ := balance_setup (i := i) lab reset
  unfold Lab.start
  split
  · exact ⟨rfl, fun _ => rfl⟩
  dsimp only
  split
  · -- the setup failed, having stopped what it started
    rename_i l f heq
    rw [heq] at hs hsome
    exact ⟨hs, fun hi => hsome hi (by simp)⟩
  · rename_i l heq
    rw [heq] at hs hnone
    have ho : OwesStops lab l i := ⟨hs, fun hi => hnone hi rfl⟩
    -- the run's span and state are set and the start announced; the run goes to its end
    exact ((ho.of_controls ((hk.2 _ _).trans (show _ = l.controls by
      split
      · exact controls_stepView.modifyRun l _ fun _ => ⟨rfl, rfl, rfl⟩
      · rfl))).follow (Lab.loop_controlsFollow _ hk fuel)).teardown hk _

end Run

/-! ## A start that fails -/

theorem balance_of_failed_start (h : Handlers τ σ) (fuel : Nat) {reset : Bool} {lab : Lab τ σ} {f : Failure}
    (hrun : lab.sim.run = none) (hs : (lab.setup reset).2 = some f) (i : Nat) :
    (lab.start h fuel reset).1.controllers.size = lab.controllers.size ∧
      balance (lab.start h fuel reset).1.controllers i = balance lab.controllers i := by
  -- the failed span is traced over the setup's lab, whose controllers it keeps
  have hctl : (lab.start h fuel reset).1.controllers = (lab.setup reset).1.controllers := by
    rw [lab.start_of_setup_failure hrun hs h fuel]
    rfl
  obtain ⟨hsize, -, hkept⟩ := balance_setup (i := i) lab reset
  rw [hctl]
  refine ⟨hsize, ?_⟩
  by_cases hi : i < lab.controllers.size
  · exact hkept hi (by simp [hs])
  · rw [balance_of_size_le (by omega), balance_of_size_le (by omega)]

/-- A start without a current run that fails runs no hook and tells no
observer, whatever the handlers and the fuel.  It leaves the items (their
states, recordings and notices), the simulator's state, its hook registries
and its simulation and last frames as they were, and no run; the clock,
current frame and time step, is the attempted run's exactly when the
settings, the engine and the world passed their checks.  Each controller it
initialized it has stopped, once for each initialization. -/
theorem failed_start_moves_only_the_clock (h : Handlers τ σ) (fuel : Nat) (reset : Bool) (lab : Lab τ σ)
    (hrun : lab.sim.run = none) (hf : (lab.start h fuel reset).2.isSome) :
    (∀ (h' : Handlers τ σ) (fuel' : Nat), lab.start h' fuel' reset = lab.start h fuel reset) ∧
    (lab.start h fuel reset).1.startView =
      (if lab.sim.cfg.validate.isNone && lab.sim.backend.isSome && lab.sim.hasWorld then
        { lab.startView with currentFrame := if reset then 0 else lab.sim.lastFrame,
                             runTimeStep := lab.sim.cfg.timeStep }
      else lab.startView) ∧
    (lab.start h fuel reset).1.controllers.size = lab.controllers.size ∧
    ∀ i, (((lab.start h fuel reset).1.controllers.getD i default).stops : Int) - (lab.controllers.getD i default).stops =
      (((lab.start h fuel reset).1.controllers.getD i default).inits : Int) - (lab.controllers.getD i default).inits := by
  obtain ⟨f, hs⟩ := lab.setup_failure_of_start hrun hf
  refine ⟨fun h' fuel' => ?_, ?_, (balance_of_failed_start h fuel hrun hs 0).1, fun i => ?_⟩
  · rw [lab.start_of_setup_failure hrun hs h', lab.start_of_setup_failure hrun hs h]
  · rw [lab.start_of_setup_failure hrun hs h, Lab.startView_trace]
    exact lab.startView_setup_of_failure hrun (by simp [hs])
  · have hb := (balance_of_failed_start h fuel hrun hs i).2
    unfold balance at hb
    omega

/-- An idle lab three frames into its timeline whose arm holds a passive
controller, with an engine that refuses every run: the controller is
initialized before the engine refuses. -/
def refusingLab : Lab Unit Unit :=
  { armLab with
    items := #[{ name := "arm", master := ⟨0⟩, controllers := #[{ controller := 0, required := true }] }]
    controllers := #[Control.Controller.ofLaw .passive]
    sim := { Simulator.create (some { engine := default, script := some { reject := true } }) {} with
             hasWorld := true, lastFrame := 3, currentFrame := 3, simFrame := 3 } }

theorem failed_start_moves_only_the_clock_refusingLab :
    refusingLab.sim.run = none ∧ (refusingLab.start quietHandlers 5 true).2.isSome ∧
      ((refusingLab.start quietHandlers 5 true).1.controllers.getD 0 default).inits = 1 ∧
      (∀ (h' : Handlers Unit Unit) (fuel' : Nat),
          refusingLab.start h' fuel' true = refusingLab.start quietHandlers 5 true) ∧
      (refusingLab.start quietHandlers 5 true).1.startView =
        (if refusingLab.sim.cfg.validate.isNone && refusingLab.sim.backend.isSome &&
            refusingLab.sim.hasWorld then
          { refusingLab.startView with currentFrame := if true then 0 else refusingLab.sim.lastFrame,
                                       runTimeStep := refusingLab.sim.cfg.timeStep }
        else refusingLab.startView) ∧
      (refusingLab.start quietHandlers 5 true).1.controllers.size = refusingLab.controllers.size ∧
      ∀ i, (((refusingLab.start quietHandlers 5 true).1.controllers.getD i default).stops : Int) -
          (refusingLab.controllers.getD i default).stops =
        (((refusingLab.start quietHandlers 5 true).1.controllers.getD i default).inits : Int) -
          (refusingLab.controllers.getD i default).inits := by
  have hrun : refusingLab.sim.run = none := rfl
  have hf : (refusingLab.start quietHandlers 5 true).2.isSome := by decide +kernel
  -- the engine refused after the arm's controller was initialized
  have hinit : ((refusingLab.start quietHandlers 5 true).1.controllers.getD 0 default).inits = 1 := by
    decide +kernel
  exact ⟨hrun, hf, hinit, failed_start_moves_only_the_clock quietHandlers 5 true refusingLab hrun hf⟩

/-! ## How a run treats its controllers -/

theorem steadyHandlers_keepsControls : steadyHandlers.KeepsControls := by
  refine ⟨fun _ _ _ => rfl, fun ev lab => ?_⟩
  simp only [steadyHandlers]
  split <;> rfl

open Lab in
/-- How a run treats its controllers.  A call that fails writes no efforts,
stops and marks its slot, holds the body's efforts where the first failure
found them, counts one failure, and leaves the run going and every body's
activity and every other slot as they were; a call that finishes writes its
efforts and stops its slot, holding and counting nothing; a slot that
stopped is not called.  Along a whole run no stopped slot starts again, no
failed one is cleared, and held efforts stay as they were held; a body's
controllers run with its held efforts written back.  A run that lasts while
its controllers do ends after the first step at whose end none runs, and a
start stops each controller exactly as often as it initialized it. -/
theorem controller_failures_are_contained (h : Handlers τ σ) (hk : h.KeepsControls) (hc : h.KeepsClock) :
    (∀ (lab : Lab τ σ) env k (sb : SimBody) si, (sb.slots[si]!).running = true →
      CallOutcome.of (lab.callOf env (sb.slots[si]!).controller) = .failed →
      k < lab.run.bodies.size → si < (lab.simBody k).slots.size →
        (runSlot env k sb lab si).assembly = lab.assembly ∧
        (runSlot env k sb lab si).sim.meter = lab.sim.meter.map (·.incFailures) ∧
        (runSlot env k sb lab si).slotAt k si = { lab.slotAt k si with running := false, failed := true } ∧
        ((runSlot env k sb lab si).simBody k).isFrozen = true ∧
        ((runSlot env k sb lab si).simBody k).frozen =
          (if (lab.simBody k).isFrozen then (lab.simBody k).frozen else lab.assembly.efforts (lab.simBody k).body) ∧
        CallFrame k si lab (runSlot env k sb lab si)) ∧
    (∀ (lab : Lab τ σ) env k (sb : SimBody) si, (sb.slots[si]!).running = true →
      CallOutcome.of (lab.callOf env (sb.slots[si]!).controller) = .finished →
      k < lab.run.bodies.size → si < (lab.simBody k).slots.size →
        (runSlot env k sb lab si).assembly = (lab.called env (sb.slots[si]!).controller).output lab.assembly ∧
        (runSlot env k sb lab si).sim.meter = lab.sim.meter ∧
        (runSlot env k sb lab si).slotAt k si = { lab.slotAt k si with running := false } ∧
        ((runSlot env k sb lab si).simBody k).isFrozen = (lab.simBody k).isFrozen ∧
        ((runSlot env k sb lab si).simBody k).frozen = (lab.simBody k).frozen ∧
        CallFrame k si lab (runSlot env k sb lab si)) ∧
    (∀ (lab : Lab τ σ) env k (sb : SimBody) si, (sb.slots[si]!).running = false → runSlot env k sb lab si = lab) ∧
    (∀ (fuel : Nat) (lab : Lab τ σ), lab.ControlsFollow (loop h fuel lab).1) ∧
    (∀ (lab : Lab τ σ) k, lab.runControllers k = (List.range (lab.simBody k).slots.size).foldl
        (runSlot ((lab.restoreFrozen k).controlEnv lab.run.cfg) k (lab.simBody k)) (lab.restoreFrozen k) ∧
      ((lab.simBody k).isFrozen = true → (lab.assembly.body (lab.simBody k).body).joints.toList.Nodup →
        (∀ j ∈ (lab.assembly.body (lab.simBody k).body).joints, j.idx < lab.assembly.links.size) →
        (lab.simBody k).frozen.size = (lab.assembly.body (lab.simBody k).body).joints.size →
        (lab.restoreFrozen k).assembly.efforts (lab.simBody k).body = (lab.simBody k).frozen)) ∧
    (∀ (lab l : Lab τ σ) (n : Nat), lab.run.cfg.timeRange = .activeControl → lab.run.stop = false →
      (lab.sim.state == .paused) = false → lab.step h = (l, none) →
        loop h (n + 1) lab =
          if ∀ k < l.run.bodies.size, ∀ si < (l.simBody k).slots.size, (l.slotAt k si).running = false then
            (l.measure (·.observeStep 0), {})
          else loop h n (l.measure (·.observeStep 0))) ∧
    (∀ (fuel : Nat) (reset : Bool) (lab : Lab τ σ) (i : Nat),
      (((lab.start h fuel reset).1.controllers.getD i default).stops : Int) - (lab.controllers.getD i default).stops =
        (((lab.start h fuel reset).1.controllers.getD i default).inits : Int) - (lab.controllers.getD i default).inits) := by
  refine ⟨fun lab env k sb si hs ho hk' hsi => runSlot_of_failed lab env k sb si hs ho hk' hsi,
    fun lab env k sb si hs ho hk' hsi => runSlot_of_finished lab env k sb si hs ho hk' hsi,
    fun lab env k sb si hs => runSlot_of_stopped lab env k sb si hs,
    fun fuel lab => loop_controlsFollow lab hk fuel,
    fun lab k => ⟨runControllers_eq lab k, efforts_restoreFrozen lab k⟩,
    fun lab l n hr hs hp hx => loop_of_activeControl lab hc hr hs hp hx,
    fun fuel reset lab i => ?_⟩
  -- the balance of inits over stops is what a start keeps
  have hb := (balance_start (i := i) hk fuel reset lab).2
  unfold balance at hb
  omega

/-- A lab in the middle of a run whose one body has one slot, held by a
scripted controller that fails at its first call. -/
def failingLab : Lab Unit Unit :=
  { armLab with
    controllers := #[Control.Controller.ofLaw (.scripted { failAt := 0 })]
    sim := { armLab.sim with
      run := some { cfg := {}, record := false, frame := 0, startFrame := 0,
                    bodies := #[{ item := 0, body := ⟨0⟩, slots := #[{ controller := 0, required := true }],
                                  active := true, wantActive := true }] } } }

theorem failingLab_fails_safely :
    steadyHandlers.KeepsControls ∧ steadyHandlers.KeepsClock ∧
      let sb := failingLab.simBody 0
      let env := failingLab.controlEnv failingLab.run.cfg
      (Lab.runSlot env 0 sb failingLab 0).assembly = failingLab.assembly ∧
        (Lab.runSlot env 0 sb failingLab 0).sim.meter = failingLab.sim.meter.map (·.incFailures) ∧
        (Lab.runSlot env 0 sb failingLab 0).slotAt 0 0 = { failingLab.slotAt 0 0 with running := false, failed := true } ∧
        ((Lab.runSlot env 0 sb failingLab 0).simBody 0).isFrozen = true ∧
        ((Lab.runSlot env 0 sb failingLab 0).simBody 0).frozen =
          (if (failingLab.simBody 0).isFrozen then (failingLab.simBody 0).frozen
           else failingLab.assembly.efforts (failingLab.simBody 0).body) ∧
        Lab.CallFrame 0 0 failingLab (Lab.runSlot env 0 sb failingLab 0) :=
  ⟨steadyHandlers_keepsControls, steadyHandlers_keepsClock,
    (controller_failures_are_contained steadyHandlers steadyHandlers_keepsControls steadyHandlers_keepsClock).1
      failingLab (failingLab.controlEnv failingLab.run.cfg) 0 (failingLab.simBody 0) 0 (by decide) (by decide)
      (by decide) (by decide)⟩

end Multibody.Sim
