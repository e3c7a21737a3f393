import Multibody.Proofs.Recording.Window

/-!
# What a lab shows of published results

`Lab.records` forgets everything but what runs publish, read off
`Lab.outbox` (`Lab.records_eq_of_outbox`).  Every stage before the end of a
step leaves the records alone when the handlers do
(`Handlers.KeepsRecords`), so a step fails with its records or is
`completeStep` of a lab with them (`step_cases`).
-/

namespace Multibody.Sim

variable {τ σ : Type}

/-- What an item shows of published results, by frame number. -/
structure ItemRecords where
  state : Option Int
  recording : List Int
  capacity : Int
  listeners : Array Nat
  notices : List (Nat × Int)
  deriving Inhabited

/-- The records of an item. -/
def BodyItem.records (bi : BodyItem) : ItemRecords where
  state := bi.state.map (·.frame)
  recording := bi.recording.frames.toList.map (·.frame)
  capacity := bi.recording.capacity
  listeners := bi.listeners
  notices := bi.notices.toList.map fun n => (n.1, n.2.frame)

/-- A simulation body's item, its buffered frames and its buffer capacity. -/
structure BodyRecords where
  item : Nat
  buffer : List Int
  capacity : Nat

/-- The records of a simulation body. -/
def SimBody.records (sb : SimBody) : BodyRecords :=
  ⟨sb.item, sb.buffer.toList.map (·.frame), sb.capacity⟩

/-- What a run shows of its results: its frame, whether it records, and its
bodies' records. -/
structure RunRecords where
  frame : Int
  record : Bool
  bodies : List BodyRecords

/-- The records of a run. -/
def Run.records (r : Run) : RunRecords := ⟨r.frame, r.record, r.bodies.toList.map SimBody.records⟩

/-- What a lab shows of published results. -/
structure Records where
  items : List ItemRecords
  run : Option RunRecords
  simFrame : Int
  lastFrame : Int

/-- The records of a lab. -/
def Lab.records (lab : Lab τ σ) : Records :=
  ⟨lab.items.toList.map BodyItem.records, lab.sim.run.map Run.records, lab.sim.simFrame,
   lab.sim.lastFrame⟩

/-- What a simulation body holds for publication, as values: its item, its
buffer and the buffer's capacity. -/
def SimBody.outbox (sb : SimBody) : Nat × Array Snapshot × Nat := (sb.item, sb.buffer, sb.capacity)

/-- What a run holds for publication, as values: its frame, whether it
records, and its bodies' outboxes. -/
def Run.outbox (r : Run) : Int × Bool × Array (Nat × Array Snapshot × Nat) :=
  (r.frame, r.record, r.bodies.map SimBody.outbox)

/-- What a lab holds of published and buffered results, as values: its
items, the current run's outbox, the simulation frame and the frame the last
run ended at.  The records are its frame numbers (`Lab.records_eq_of_outbox`). -/
structure Outbox where
  items : Array BodyItem
  run : Option (Int × Bool × Array (Nat × Array Snapshot × Nat))
  simFrame : Int
  lastFrame : Int

/-- The outbox of a lab. -/
def Lab.outbox (lab : Lab τ σ) : Outbox :=
  ⟨lab.items, lab.sim.run.map Run.outbox, lab.sim.simFrame, lab.sim.lastFrame⟩

theorem Lab.records_eq_of_outbox {lab₁ lab₂ : Lab τ σ} (h : lab₁.outbox = lab₂.outbox) :
    lab₁.records = lab₂.records := by
  have hitems : lab₁.items = lab₂.items := congrArg Outbox.items h
  have hrun : lab₁.sim.run.map Run.outbox = lab₂.sim.run.map Run.outbox := congrArg Outbox.run h
  have hsim : lab₁.sim.simFrame = lab₂.sim.simFrame := congrArg Outbox.simFrame h
  have hlast : lab₁.sim.lastFrame = lab₂.sim.lastFrame := congrArg Outbox.lastFrame h
  -- the records of a run are read off its outbox
  have hview : ∀ r : Run, r.records =
      ⟨r.outbox.1, r.outbox.2.1, r.outbox.2.2.toList.map fun b => ⟨b.1, b.2.1.toList.map (·.frame), b.2.2⟩⟩ := by
    intro r
    simp [Run.records, Run.outbox, SimBody.records, SimBody.outbox, Function.comp_def]
  have hruns : lab₁.sim.run.map Run.records = lab₂.sim.run.map Run.records := by
    cases h₁ : lab₁.sim.run <;> cases h₂ : lab₂.sim.run <;>
      simp only [h₁, h₂, Option.map_none, Option.map_some, Option.some.injEq, reduceCtorEq] at hrun ⊢
    rw [hview, hview, hrun]
  simp only [Lab.records, hitems, hruns, hsim, hlast]

/-- Hooks and observers that never change what runs publish: they may stop
or pause the run, register hooks or change bodies, but leave the items'
states, recordings and listeners, the run's frame and buffers, and the
simulation frame alone. -/
def Handlers.KeepsRecords (h : Handlers τ σ) : Prop :=
  (∀ id task lab, (h.hook id task lab).1.records = lab.records) ∧
    ∀ ev lab, (h.event ev lab).records = lab.records

/-- Hooks and observers that do nothing. -/
def quietHandlers : Handlers Unit Unit where
  hook _ _ lab := (lab, none)
  event _ lab := lab

theorem quietHandlers_keepsRecords : quietHandlers.KeepsRecords := ⟨fun _ _ _ => rfl, fun _ _ => rfl⟩

theorem foldl_keeps {α β γ : Type} (g : β → γ) (f : β → α → β) (hf : ∀ b a, g (f b a) = g b) :
    ∀ (l : List α) (b : β), g (l.foldl f b) = g b
  | [], _ => rfl
  | a :: l, b => (foldl_keeps g f hf l (f b a)).trans (hf b a)

theorem map_modify {α β : Type} (g : α → β) {f : α → α} {f' : β → β} (hf : ∀ a, g (f a) = f' (g a))
    (l : List α) (k : Nat) : (l.modify k f).map g = (l.map g).modify k f' := by
  apply List.ext_getElem
  · simp
  · intro i h₁ h₂
    simp only [List.getElem_map, List.getElem_modify]
    split <;> simp [hf]

namespace Lab

variable (lab : Lab τ σ)

/-! ## Operations that leave the records alone -/

@[simp] theorem records_withAssembly (a : Assembly) : (lab.withAssembly a).records = lab.records := rfl

@[simp] theorem records_measure (f : Observe.Meter → Observe.Meter) :
    (lab.measure f).records = lab.records := rfl

@[simp] theorem records_trace (span : Observe.Span) : (lab.trace span).records = lab.records := rfl

@[simp] theorem records_setState (st : SimState) : (lab.setState st).records = lab.records := rfl

theorem records_modifyRun {f : Run → Run} (hf : ∀ r, (f r).records = r.records) :
    (lab.modifyRun f).records = lab.records := by
  cases hr : lab.sim.run <;> simp [records, modifyRun, modifySim, hr, hf]

theorem records_modifyBody_of (k : Nat) {f : SimBody → SimBody} {g : BodyRecords → BodyRecords}
    (hf : ∀ sb, (f sb).records = g sb.records) :
    (lab.modifyBody k f).records =
      { lab.records with run := lab.records.run.map fun rr => { rr with bodies := rr.bodies.modify k g } } := by
  cases hr : lab.sim.run <;> simp [records, modifyBody, modifyRun, modifySim, hr, Run.records, map_modify _ hf]

theorem records_modifyItem_of (i : Nat) {f : BodyItem → BodyItem} {g : ItemRecords → ItemRecords}
    (hf : ∀ bi, (f bi).records = g bi.records) :
    (lab.modifyItem i f).records = { lab.records with items := lab.records.items.modify i g } := by
  simp [records, modifyItem, map_modify _ hf]

/-! ## Operations that leave the outbox alone

The stages of a step before the frame advances, but the hooks and the
observers, keep every item, every buffer, the run's frame and the simulation
frame: they keep the outbox, and so the records. -/

@[simp] theorem outbox_withAssembly (a : Assembly) : (lab.withAssembly a).outbox = lab.outbox := rfl

@[simp] theorem outbox_measure (f : Observe.Meter → Observe.Meter) : (lab.measure f).outbox = lab.outbox := rfl

@[simp] theorem outbox_setControllers (cs : Array Control.Controller) :
    ({ lab with controllers := cs }).outbox = lab.outbox := rfl

theorem outbox_modifyRun {f : Run → Run} (hf : ∀ r, (f r).outbox = r.outbox) :
    (lab.modifyRun f).outbox = lab.outbox := by
  cases hr : lab.sim.run <;> simp [outbox, modifyRun, modifySim, hr, hf]

theorem outbox_modifyBody (k : Nat) {f : SimBody → SimBody} (hf : ∀ sb, (f sb).outbox = sb.outbox) :
    (lab.modifyBody k f).outbox = lab.outbox := by
  refine outbox_modifyRun _ fun r => ?_
  simp only [Run.outbox, Prod.mk.injEq, true_and]
  apply Array.ext (by simp)
  intro i h₁ h₂
  simp only [Array.getElem_map, Array.getElem_modify]
  split <;> simp [hf]

theorem outbox_freeze (k : Nat) : (lab.freeze k).outbox = lab.outbox := by
  unfold freeze
  dsimp only
  split
  · rfl
  · exact outbox_modifyBody _ _ fun _ => rfl

theorem outbox_driveController (env : Control.Env) (idx : Nat) :
    (lab.driveController env idx).1.outbox = lab.outbox := by
  unfold driveController
  dsimp only
  split
  · rfl
  · split <;> rfl

theorem outbox_stopSlot (k si : Nat) (f : Failure) : (lab.stopSlot k si f).outbox = lab.outbox := by
  unfold stopSlot
  dsimp only
  split
  · rw [outbox_measure, outbox_freeze]
    exact outbox_modifyBody _ _ fun _ => rfl
  · exact outbox_modifyBody _ _ fun _ => rfl

theorem outbox_runSlot (env : Control.Env) (k : Nat) (sb : SimBody) (si : Nat) :
    (runSlot env k sb lab si).outbox = lab.outbox := by
  unfold runSlot
  dsimp only
  split
  · rfl
  · have h := lab.outbox_driveController env (sb.slots[si]!).controller
    split <;> rename_i lab' _ heq <;> rw [heq] at h
    · exact h
    · exact (outbox_stopSlot _ _ _ _).trans h

theorem outbox_runControllers (k : Nat) : (lab.runControllers k).outbox = lab.outbox := by
  unfold runControllers
  dsimp only
  rw [foldl_keeps outbox _ (fun lab si => outbox_runSlot lab _ k _ si)]
  split <;> rfl

theorem outbox_runAllControllers : lab.runAllControllers.outbox = lab.outbox :=
  foldl_keeps outbox _ outbox_runControllers _ _

theorem outbox_clearForces : lab.clearForces.outbox = lab.outbox := by
  unfold clearForces
  rw [← Array.foldl_toList]
  apply foldl_keeps
  intro lab k
  rfl

theorem outbox_forceLapsed (now : Float) (f : ForceCommand) :
    (lab.forceLapsed now f).1.outbox = lab.outbox := by
  unfold forceLapsed
  split
  · split
    · rfl
    · exact outbox_modifyRun _ fun _ => rfl
  · rfl

theorem outbox_applyForce (now : Float) (f : ForceCommand) :
    (lab.applyForce now f).outbox = lab.outbox := by
  unfold applyForce
  dsimp only
  split
  · rfl
  · split
    · rfl
    · split
      · rfl
      · have h := lab.outbox_forceLapsed now f
        split <;> rename_i heq <;> rw [heq] at h <;> simpa using h

theorem outbox_applyString (s : StringCommand) : (lab.applyString s).outbox = lab.outbox := by
  unfold applyString
  dsimp only
  split
  · rfl
  · split
    · rfl
    · split <;> rfl

theorem outbox_applyPerturbations (p : Perturbations) :
    (lab.applyPerturbations p).outbox = lab.outbox := by
  unfold applyPerturbations
  dsimp only
  rw [← Array.foldl_toList, foldl_keeps outbox _ outbox_applyString, ← Array.foldl_toList,
    foldl_keeps outbox _ (fun lab f => outbox_applyForce lab _ f)]

theorem outbox_holdForcedPose (fp : ForcedPose) : (lab.holdForcedPose fp).outbox = lab.outbox := by
  unfold holdForcedPose
  dsimp only
  split
  · rfl
  · split
    · rfl
    · split <;> rfl

theorem outbox_holdForcedPoses (p : Perturbations) : (lab.holdForcedPoses p).outbox = lab.outbox := by
  unfold holdForcedPoses
  rw [← Array.foldl_toList]
  exact foldl_keeps outbox _ outbox_holdForcedPose _ _

theorem outbox_queryDetector (d : Detector) : (lab.queryDetector d).1.outbox = lab.outbox := by
  unfold queryDetector
  split
  · exact outbox_modifyRun _ fun _ => rfl
  · rfl

theorem outbox_useContacts (pairs : Array LinkPair) : (lab.useContacts pairs).outbox = lab.outbox := by
  unfold useContacts
  dsimp only
  refine (outbox_modifyRun _ ?_).trans ?_
  · intro r
    rfl
  · split <;> rfl

theorem outbox_detectCollisions : lab.detectCollisions.outbox = lab.outbox := by
  unfold detectCollisions
  split
  · rfl
  · rename_i d _
    have h := lab.outbox_queryDetector d
    split
    rename_i heq
    rw [heq] at h
    exact (outbox_useContacts _ _).trans h

theorem Run.outbox_rebuildActive (r : Run) : r.rebuildActive.outbox = r.outbox := by
  simp [Run.rebuildActive, Run.outbox, SimBody.outbox, Function.comp_def]

theorem records_rebuildActive (r : Run) : r.rebuildActive.records = r.records := by
  simp [Run.rebuildActive, Run.records, SimBody.records, Function.comp_def]

theorem outbox_advance : lab.advance.1.outbox = lab.outbox := by
  unfold advance
  split
  · rfl
  · dsimp only
    split
    · rfl
    · rfl

section Handlers

variable {h : Handlers τ σ}

theorem runEntries_preserves (P : Lab τ σ → Prop) (hP : ∀ id task (l : Lab τ σ), P l → P (h.hook id task l).1) :
    ∀ (es : List (Nat × τ)) (l : Lab τ σ), P l → P (runEntries h es l).1
  | [], _, hl => hl
  | (id, task) :: rest, l, hl => by
    have hk := hP id task l hl
    unfold runEntries
    split
    · rename_i heq
      rw [heq] at hk
      exact hk
    · rename_i l' heq
      rw [heq] at hk
      exact runEntries_preserves P hP rest l' hk

theorem runPhase_preserves (P : Lab τ σ → Prop) (hP : ∀ id task (l : Lab τ σ), P l → P (h.hook id task l).1)
    (ph : Phase) (hl : P lab) : P (lab.runPhase h ph).1 := by
  have hk := runEntries_preserves P hP (lab.hooksOf ph).entries.toList lab hl
  unfold runPhase runHooks
  split <;> rename_i heq <;> rw [heq] at hk <;> exact hk

theorem runPhase_keeps {α : Type} (g : Lab τ σ → α) (hg : ∀ id task (l : Lab τ σ), g (h.hook id task l).1 = g l)
    (ph : Phase) : g (lab.runPhase h ph).1 = g lab :=
  runPhase_preserves lab (fun x => g x = g lab) (fun id task x hx => (hg id task x).trans hx) ph rfl

theorem records_runPhase (hh : h.KeepsRecords) (ph : Phase) :
    (lab.runPhase h ph).1.records = lab.records :=
  runPhase_keeps lab records hh.1 ph

theorem records_beginStep (hh : h.KeepsRecords) : (lab.beginStep h).records = lab.records := by
  unfold beginStep
  dsimp only
  split
  · rw [hh.2, records_measure]
    exact records_modifyRun _ fun r => records_rebuildActive r
  · rfl

theorem records_of_runPhase_eq (hh : h.KeepsRecords) {lab l : Lab τ σ} {ph : Phase}
    {e : Option Failure} (heq : lab.runPhase h ph = (l, e)) : l.records = lab.records := by
  have hk := lab.records_runPhase hh ph
  rwa [heq] at hk

theorem records_of_advance_eq {lab l : Lab τ σ} {e : Option Failure} (heq : lab.advance = (l, e)) :
    l.records = lab.records := by
  have hk := lab.outbox_advance
  rw [heq] at hk
  exact records_eq_of_outbox hk

theorem step_cases (hh : h.KeepsRecords) :
    ((lab.step h).2.isSome ∧ (lab.step h).1.records = lab.records) ∨
      ∃ mid : Lab τ σ, mid.records = lab.records ∧ lab.step h = (mid.completeStep h, none) := by
  -- the stages before the hooks
  have hA : ∀ pert : Perturbations,
      (if pert.isEmpty then (lab.beginStep h).clearForces
        else (((lab.beginStep h).clearForces).applyPerturbations pert).holdForcedPoses pert).runAllControllers.records =
        lab.records := by
    intro pert
    rw [records_eq_of_outbox (outbox_runAllControllers _)]
    split
    · rw [records_eq_of_outbox (outbox_clearForces _), records_beginStep _ hh]
    · rw [records_eq_of_outbox (outbox_holdForcedPoses _ _), records_eq_of_outbox (outbox_applyPerturbations _ _),
        records_eq_of_outbox (outbox_clearForces _), records_beginStep _ hh]
  unfold step
  dsimp only
  -- one case split per stage that can fail: pre hooks, mid hooks, the engine, post hooks
  split
  · rename_i l₁ f heq₁
    exact Or.inl ⟨rfl, (records_of_runPhase_eq hh heq₁).trans (hA _)⟩
  rename_i l₁ heq₁
  have h₁ := (records_of_runPhase_eq hh heq₁).trans (hA _)
  split
  · rename_i l₂ f heq₂
    exact Or.inl ⟨rfl, (records_of_runPhase_eq hh heq₂).trans h₁⟩
  rename_i l₂ heq₂
  have h₂ := (records_of_runPhase_eq hh heq₂).trans h₁
  split
  · rename_i l₃ f heq₃
    refine Or.inl ⟨rfl, ?_⟩
    rw [records_of_advance_eq heq₃]
    split <;> simp [records_eq_of_outbox (outbox_detectCollisions _), h₂]
  rename_i l₃ heq₃
  have h₃ : l₃.records = lab.records := by
    rw [records_of_advance_eq heq₃]
    split <;> simp [records_eq_of_outbox (outbox_detectCollisions _), h₂]
  split
  · rename_i l₄ f heq₄
    refine Or.inl ⟨rfl, ?_⟩
    rw [records_of_runPhase_eq hh heq₄]
    split <;> simp [records_eq_of_outbox (outbox_holdForcedPoses _ _), h₃]
  · rename_i l₄ heq₄
    refine Or.inr ⟨l₄, ?_, rfl⟩
    rw [records_of_runPhase_eq hh heq₄]
    split <;> simp [records_eq_of_outbox (outbox_holdForcedPoses _ _), h₃]

end Handlers

end Lab

end Multibody.Sim
