import Multibody.Proofs.Recording.Publish

/-!
# What a setup leaves in the records

A setup that goes through changes the records of the items whose bodies take
part and of no other: their recordings are opened (`ItemRecords.openRun`),
emptied first on a reset, then given the run's capacity.  The run it makes
is at the start frame, records unless recording is off, and has one body per
item taking part, in the world's order, each with an empty buffer of the
configured capacity; the simulation frame is the start frame
(`records_setup`).
-/

namespace Multibody.Sim

variable {τ σ : Type}

/-- An item's records as a run takes them up: without state and recording
on a reset. -/
def ItemRecords.reopen (ir : ItemRecords) (reset : Bool) : ItemRecords :=
  if reset then { ir with state := none, recording := [] } else ir

/-- An item's records when a run opens its recording: reopened, then
trimmed to the capacity, when positive, and given it. -/
def ItemRecords.openRun (ir : ItemRecords) (reset : Bool) (capacity : Int) : ItemRecords :=
  let ir := ir.reopen reset
  { ir with
    recording := if capacity ≤ 0 then ir.recording else ir.recording.rtake capacity.toNat
    capacity := capacity }

/-- The capacity a run's recordings are opened with. -/
def Config.recordingCapacity (cfg : Config) : Int :=
  if cfg.recording == .tail then cfg.tailFrames else 0

theorem Config.recordingCapacity_eq (cfg : Config) :
    cfg.recordingCapacity = match cfg.recording with | .tail => cfg.tailFrames | _ => 0 := by
  unfold recordingCapacity
  cases cfg.recording <;> rfl

theorem Config.records_eq (cfg : Config) :
    (cfg.recording != .off) = match cfg.recording with | .off => false | _ => true := by
  cases cfg.recording <;> rfl

theorem map_fst_zip_sublist {α β : Type} : ∀ (l₁ : List α) (l₂ : List β), ((l₁.zip l₂).map Prod.fst).Sublist l₁
  | [], _ => by simp
  | _ :: _, [] => by simp
  | a :: l₁, _ :: l₂ => by simpa using (map_fst_zip_sublist l₁ l₂).cons_cons a

namespace Lab

variable (lab : Lab τ σ)

theorem records_applyStates (pairs : List (Nat × BodyId)) : (lab.applyStates pairs).records = lab.records := by
  unfold applyStates
  apply foldl_keeps
  intro lab p
  obtain ⟨i, c⟩ := p
  dsimp only
  split
  · split <;> rfl
  · rfl

theorem records_initController (cfg : Config) (clone : BodyId) (att : Attachment) :
    (initController cfg clone att lab).1.records = lab.records := by
  unfold initController
  split <;> rfl

theorem records_prepareSlots (cfg : Config) (bi : BodyItem) (clone : BodyId) :
    ∀ (atts : List Attachment) (lab : Lab τ σ) (slots : Array ControllerSlot),
      (prepareSlots cfg bi clone atts lab slots).1.records = lab.records
  | [], _, _ => rfl
  | att :: rest, lab, slots => by
    have hinit := lab.records_initController cfg clone att
    unfold prepareSlots
    dsimp only
    split
    · split <;> exact hinit
    · exact (records_prepareSlots cfg bi clone rest _ _).trans hinit

theorem records_resolveDetector : lab.resolveDetector.records = lab.records := by
  unfold resolveDetector
  dsimp only
  split
  · rfl
  · split
    · rfl
    · split
      · rfl
      · exact records_modifyRun _ fun _ => rfl

theorem prepareBodies_ok (cfg : Config) :
    ∀ (pairs : List (Nat × BodyId)) (lab lab' : Lab τ σ) (bodies bodies' : Array SimBody),
      prepareBodies cfg pairs lab bodies = (lab', .ok bodies') →
      lab'.records = lab.records ∧ ∃ its : List Nat, its.Sublist (pairs.map Prod.fst) ∧
        bodies'.toList.map SimBody.records =
          bodies.toList.map SimBody.records ++ its.map fun i => ⟨i, [], cfg.bufferCapacity⟩
  | [], lab, lab', bodies, bodies', h => by
    simp only [prepareBodies, Prod.mk.injEq, Except.ok.injEq] at h
    obtain ⟨rfl, rfl⟩ := h
    exact ⟨rfl, [], by simp, by simp⟩
  | (i, c) :: rest, lab, lab', bodies, bodies', h => by
    have hprep := records_prepareSlots cfg (lab.items.getD i default) c
      (lab.items.getD i default).controllers.toList lab #[]
    unfold prepareBodies prepareControllers at h
    split at h
    · simp at h
    · -- the body is left out
      rename_i lab₁ heq
      rw [heq] at hprep
      obtain ⟨hr, its, hsub, hb⟩ := prepareBodies_ok cfg rest lab₁ lab' bodies bodies' h
      exact ⟨hr.trans hprep, its, hsub.trans (List.sublist_cons_self _ _), hb⟩
    · -- the body takes part
      rename_i lab₁ slots heq
      rw [heq] at hprep
      obtain ⟨hr, its, hsub, hb⟩ := prepareBodies_ok cfg rest lab₁ lab' _ bodies' h
      refine ⟨hr.trans hprep, i :: its, hsub.cons_cons i, ?_⟩
      rw [hb]
      simp [SimBody.records]

theorem BodyItem.records_openRun (bi : BodyItem) (reset : Bool) (capacity : Int) :
    (let bi := if reset then bi.resetState else bi
     { bi with recording := bi.recording.setCapacity capacity }).records =
      bi.records.openRun reset capacity := by
  cases reset <;>
    simp [BodyItem.records, ItemRecords.openRun, ItemRecords.reopen, BodyItem.resetState, Recording.frames_setCapacity,
      Recording.clear, apply_ite, map_rtake]

theorem records_openRecordings (reset : Bool) (capacity : Int) (bodies : Array SimBody) :
    (lab.openRecordings reset capacity bodies).records =
      { lab.records with
        items := (bodies.toList.map (·.item)).foldl (fun l i => l.modify i (·.openRun reset capacity))
          lab.records.items } := by
  unfold openRecordings
  rw [← Array.foldl_toList]
  induction bodies.toList generalizing lab with
  | nil => rfl
  | cons sb rest ih =>
    simp only [List.foldl_cons, List.map_cons]
    rw [ih, @records_modifyItem_of _ _ _ _ _ (·.openRun reset capacity)
      fun bi => BodyItem.records_openRun bi reset capacity]

@[simp] theorem records_setRun (r : Run) :
    (lab.modifySim fun s => { s with run := some r }).records = { lab.records with run := some r.records } := rfl

@[simp] theorem records_setSimFrame (f : Int) :
    (lab.modifySim fun s => { s with simFrame := f }).records = { lab.records with simFrame := f } := rfl

theorem records_launch {cfg : Config} {backend : Dynamics.Backend} {reset : Bool} {startFrame : Int}
    {bodies : Array SimBody} (hs : (lab.launch cfg backend reset startFrame bodies).2 = none) :
    (lab.launch cfg backend reset startFrame bodies).1.records =
      { lab.records with
        items := (bodies.toList.map (·.item)).foldl
          (fun l i => l.modify i (·.openRun reset cfg.recordingCapacity)) lab.records.items
        simFrame := startFrame } := by
  unfold launch at hs ⊢
  dsimp only at hs ⊢
  -- the engine takes the bodies, or the launch fails
  rcases hb : backend.begin (if bodies.isEmpty then none else some cfg.timeStep) with msg | ⟨bk, _ | _⟩
  · simp only [hb] at hs
    simp at hs
  · simp only [hb] at hs
    simp at hs
  · simp only [Bool.not_true, Bool.false_eq_true, ↓reduceIte]
    rw [records_measure, records_setSimFrame, records_openRecordings]
    rfl

theorem records_setupWith {cfg : Config} {backend : Dynamics.Backend} {reset : Bool}
    (hs : (lab.setupWith cfg backend reset).2 = none) :
    ∃ its : List Nat, its.Sublist lab.world.bodies.toList ∧
      (lab.setupWith cfg backend reset).1.records =
        { items := its.foldl (fun l i => l.modify i (·.openRun reset cfg.recordingCapacity)) lab.records.items
          run := some ⟨if reset then 0 else lab.sim.lastFrame, cfg.recording != .off,
                       its.map fun i => ⟨i, [], cfg.bufferCapacity⟩⟩
          simFrame := if reset then 0 else lab.sim.lastFrame
          lastFrame := lab.sim.lastFrame } := by
  unfold setupWith at hs ⊢
  dsimp only at hs ⊢
  split at hs
  · simp at hs
  split at hs
  · simp at hs
  rename_i lab₂ bodies heqb
  obtain ⟨h₂, its, hsub, hb⟩ := prepareBodies_ok cfg _ _ _ _ _ heqb
  have hitems : bodies.toList.map (·.item) = its := by
    simpa [Function.comp_def, SimBody.records] using congrArg (List.map (·.item)) hb
  refine ⟨its, hsub.trans ?_, ?_⟩
  · rw [Array.toList_zip]
    exact map_fst_zip_sublist _ _
  -- the placed clones and the prepared controllers keep the records
  have h₂' : lab₂.records = lab.records := by
    rw [h₂, records_withAssembly]
    split
    · rfl
    · rw [records_applyStates]
      rfl
  rw [records_launch _ hs, records_resolveDetector, records_setRun, hitems, h₂', records_rebuildActive]
  simp only [Run.records, hb, List.map_nil, List.nil_append]
  rfl

theorem records_setup {reset : Bool} (hs : (lab.setup reset).2 = none) :
    lab.sim.cfg.validate = none ∧ ∃ its : List Nat, its.Sublist lab.world.bodies.toList ∧
      (lab.setup reset).1.records =
        { items := its.foldl (fun l i => l.modify i (·.openRun reset lab.sim.cfg.recordingCapacity))
            lab.records.items
          run := some ⟨if reset then 0 else lab.sim.lastFrame, lab.sim.cfg.recording != .off,
                       its.map fun i => ⟨i, [], lab.sim.cfg.bufferCapacity⟩⟩
          simFrame := if reset then 0 else lab.sim.lastFrame
          lastFrame := lab.sim.lastFrame } := by
  unfold setup at hs ⊢
  dsimp only at hs ⊢
  split at hs
  · simp at hs
  · simp at hs
  · rename_i hv _
    split at hs
    · rename_i hw
      rw [if_pos hw]
      exact ⟨hv, lab.records_setupWith hs⟩
    · simp at hs

end Lab

end Multibody.Sim
