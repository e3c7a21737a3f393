import Multibody.Proofs.Recording.Contract
import Multibody.Proofs.Lifecycle.FailedStart
import Multibody.Proofs.Schedule.Pending

/-!
# Pauses and flushes do not change what a run simulates

Two runs from the same lab whose drivers agree on what is simulated
(`Handlers.Agree`), restart every pause (`Handlers.Restarts`) and publish
whenever they like end alike (`pauses_and_flushes_keep_the_run`).  The proof
is a simulation: `Lab.SameRun` relates labs with the same erasure and
pending publication, `Lab.InStep` is kept by every stage (`InStep.step`),
and the loops match step for step (`InStep.loop`).
-/

namespace Multibody.Sim

variable {τ σ : Type}

/-! ## Labs in the same course of a run -/

namespace Lab

/-- Two labs in the same course of a run: the same once what runs publish is
erased, and the same states and recordings once the buffers are published. -/
structure SameRun (lab₁ lab₂ : Lab τ σ) : Prop where
  erase : lab₁.erase = lab₂.erase
  pending : lab₁.pending = lab₂.pending

theorem SameRun.refl (lab : Lab τ σ) : lab.SameRun lab := ⟨rfl, rfl⟩

theorem SameRun.symm {lab₁ lab₂ : Lab τ σ} (h : lab₁.SameRun lab₂) : lab₂.SameRun lab₁ :=
  ⟨h.erase.symm, h.pending.symm⟩

theorem SameRun.trans {lab₁ lab₂ lab₃ : Lab τ σ} (h₁ : lab₁.SameRun lab₂) (h₂ : lab₂.SameRun lab₃) :
    lab₁.SameRun lab₃ :=
  ⟨h₁.erase.trans h₂.erase, h₁.pending.trans h₂.pending⟩

theorem SameRun.run_eq {lab₁ lab₂ : Lab τ σ} (h : lab₁.SameRun lab₂) {β : Type} (g : Run → β)
    (hg : ∀ r, g r.erase = g r) : g lab₁.run = g lab₂.run := by
  rw [← hg, ← run_erase, h.erase, run_erase, hg]

theorem SameRun.of_outbox {lab₁ lab₂ a₁ a₂ : Lab τ σ} (h : lab₁.SameRun lab₂) (he : a₁.erase = a₂.erase)
    (ho₁ : a₁.outbox = lab₁.outbox) (ho₂ : a₂.outbox = lab₂.outbox) : a₁.SameRun a₂ :=
  ⟨he, by rw [pending_eq_of_outbox ho₁, pending_eq_of_outbox ho₂, h.pending]⟩

theorem SameRun.map (f : Lab τ σ → Lab τ σ) (he : ∀ lab, f lab.erase = (f lab).erase)
    (ho : ∀ lab, (f lab).outbox = lab.outbox) {lab₁ lab₂ : Lab τ σ} (h : lab₁.SameRun lab₂) :
    (f lab₁).SameRun (f lab₂) :=
  h.of_outbox (by rw [← he, ← he, h.erase]) (ho lab₁) (ho lab₂)

theorem sameRun_flush (lab : Lab τ σ) : lab.flush.SameRun lab := ⟨lab.erase_flush, lab.pending_flush⟩

theorem sameRun_flush_if (lab : Lab τ σ) (c : Bool) : (if c then lab.flush else lab).SameRun lab := by
  split
  · exact sameRun_flush lab
  · exact SameRun.refl lab

theorem sameRun_setState (lab : Lab τ σ) (st : SimState) : (lab.setState st).SameRun lab :=
  ⟨rfl, pending_eq_of_outbox rfl⟩

/-- A lab whose records are those of a run publishing as `Records.Publishing`
says. -/
def Publishes (lab : Lab τ σ) : Prop := ∃ S last, lab.records.Publishing S last

theorem Publishes.of_records {lab₁ lab₂ : Lab τ σ} (h : lab₂.records = lab₁.records) (hp : lab₁.Publishes) :
    lab₂.Publishes := by
  obtain ⟨S, last, hp⟩ := hp
  exact ⟨S, last, h ▸ hp⟩

theorem Publishes.coherent {lab : Lab τ σ} (hp : lab.Publishes) : lab.Coherent := by
  obtain ⟨S, last, hp⟩ := hp
  exact lab.coherent_of_publishing hp

theorem Publishes.completeStep {lab : Lab τ σ} (hp : lab.Publishes) (h : Handlers τ σ) :
    (lab.completeStep h).Publishes := by
  obtain ⟨S, last, hp⟩ := hp
  rcases lab.records_completeStep h with hc | hc
  · obtain ⟨F, hF, -⟩ := hp.advanceFrame.flush
    exact ⟨S, F, hc ▸ hF⟩
  · exact ⟨S, last, hc ▸ hp.advanceFrame⟩

theorem Publishes.holdRun {lab : Lab τ σ} {h : Handlers τ σ} (hk : h.KeepsRecords) (hp : lab.Publishes) :
    (lab.holdRun h).1.Publishes := by
  obtain ⟨S, last, hp⟩ := hp
  obtain ⟨F, hF, -⟩ := hp.flush
  exact ⟨S, F, (lab.records_holdRun hk) ▸ hF⟩

/-- Two labs in step: in the same course of a run, each publishing as a run
does. -/
structure InStep (lab₁ lab₂ : Lab τ σ) : Prop where
  same : lab₁.SameRun lab₂
  left : lab₁.Publishes
  right : lab₂.Publishes

theorem InStep.symm {lab₁ lab₂ : Lab τ σ} (h : InStep lab₁ lab₂) : InStep lab₂ lab₁ :=
  ⟨h.same.symm, h.right, h.left⟩

theorem InStep.trans {lab₁ lab₂ lab₃ : Lab τ σ} (h₁ : InStep lab₁ lab₂) (h₂ : InStep lab₂ lab₃) :
    InStep lab₁ lab₃ :=
  ⟨h₁.same.trans h₂.same, h₁.left, h₂.right⟩

/-- Labs in step that give the same answer. -/
def SameResult {α : Type} (x₁ x₂ : Lab τ σ × α) : Prop := InStep x₁.1 x₂.1 ∧ x₁.2 = x₂.2

theorem InStep.of_outbox {lab₁ lab₂ a₁ a₂ : Lab τ σ} (h : InStep lab₁ lab₂) (he : a₁.erase = a₂.erase)
    (ho₁ : a₁.outbox = lab₁.outbox) (ho₂ : a₂.outbox = lab₂.outbox) : InStep a₁ a₂ :=
  ⟨h.same.of_outbox he ho₁ ho₂, h.left.of_records (records_eq_of_outbox ho₁),
    h.right.of_records (records_eq_of_outbox ho₂)⟩

theorem InStep.map (f : Lab τ σ → Lab τ σ) (he : ∀ lab, f lab.erase = (f lab).erase)
    (ho : ∀ lab, (f lab).outbox = lab.outbox) {lab₁ lab₂ : Lab τ σ} (h : InStep lab₁ lab₂) :
    InStep (f lab₁) (f lab₂) :=
  h.of_outbox (by rw [← he, ← he, h.same.erase]) (ho lab₁) (ho lab₂)

theorem InStep.map₂ {α : Type} (f : Lab τ σ → Lab τ σ × α) (he : ∀ lab, f lab.erase = ((f lab).1.erase, (f lab).2))
    (ho : ∀ lab, (f lab).1.outbox = lab.outbox) {lab₁ lab₂ : Lab τ σ} (h : InStep lab₁ lab₂) :
    SameResult (f lab₁) (f lab₂) := by
  -- both sides are read off the same erased lab
  have hboth : ((f lab₁).1.erase, (f lab₁).2) = ((f lab₂).1.erase, (f lab₂).2) := by
    rw [← he, ← he, h.same.erase]
  obtain ⟨herase, hanswer⟩ := Prod.mk.inj hboth
  exact ⟨h.of_outbox herase (ho lab₁) (ho lab₂), hanswer⟩

theorem InStep.ite (c : Bool) {a₁ a₂ b₁ b₂ : Lab τ σ} (ha : InStep a₁ a₂) (hb : InStep b₁ b₂) :
    InStep (if c then a₁ else b₁) (if c then a₂ else b₂) := by
  cases c
  · rw [if_neg Bool.false_ne_true, if_neg Bool.false_ne_true]
    exact hb
  · rw [if_pos rfl, if_pos rfl]
    exact ha

end Lab

/-! ## What the drivers may do -/

/-- Drivers that act alike on what a run simulates: their hooks take labs in
the same course of a run to labs in the same course, with the same
breakdowns, and so do their observers. -/
structure Handlers.Agree (h₁ h₂ : Handlers τ σ) : Prop where
  hook : ∀ (id : Nat) (task : τ) (lab₁ lab₂ : Lab τ σ), lab₁.SameRun lab₂ →
    (h₁.hook id task lab₁).1.SameRun (h₂.hook id task lab₂).1 ∧ (h₁.hook id task lab₁).2 = (h₂.hook id task lab₂).2
  event : ∀ (ev : Event) (lab₁ lab₂ : Lab τ σ), lab₁.SameRun lab₂ → (h₁.event ev lab₁).SameRun (h₂.event ev lab₂)

/-- A driver that restarts every pause at once: told that the run is held or
goes on, it changes nothing of the course of the run and leaves it going. -/
structure Handlers.Restarts (h : Handlers τ σ) : Prop where
  same : ∀ (ev : Event) (lab : Lab τ σ), ev.kind = .paused ∨ ev.kind = .resumed → (h.event ev lab).SameRun lab
  going : ∀ (ev : Event) (lab : Lab τ σ), ev.kind = .paused ∨ ev.kind = .resumed →
    ((h.event ev lab).sim.state == .paused) = false

namespace Lab

theorem holdRun_of_restarts {h : Handlers τ σ} (hr : h.Restarts) {lab : Lab τ σ} (hs : lab.run.stop = false) :
    (lab.holdRun h).2 = true ∧ (lab.holdRun h).1.SameRun lab ∧ (((lab.holdRun h).1.sim.state == .paused) = false) := by
  unfold holdRun
  dsimp only
  -- told of the pause, the driver restarts the run without touching it
  generalize hev : ({ kind := .paused, frame := lab.flush.run.frame, time := lab.flush.run.time } : Event) = ev
  have hpaused : ev.kind = .paused ∨ ev.kind = .resumed := Or.inl (by rw [← hev])
  have hsame := hr.same ev lab.flush hpaused
  have hgo := hr.going ev lab.flush hpaused
  generalize h.event ev lab.flush = l at hsame hgo
  have hl : l.SameRun lab := hsame.trans (sameRun_flush lab)
  have hstop : l.run.stop = false := (hl.run_eq Run.stop fun _ => rfl).trans hs
  rw [hstop, hgo, Bool.false_or, if_neg Bool.false_ne_true]
  exact ⟨rfl, (hr.same _ l (Or.inr rfl)).trans hl, hr.going _ l (Or.inr rfl)⟩

theorem InStep.holdRun {h : Handlers τ σ} (hr : h.Restarts) (hk : h.KeepsRecords) {lab : Lab τ σ}
    (hp : lab.Publishes) (hs : lab.run.stop = false) :
    (lab.holdRun h).2 = true ∧ InStep (lab.holdRun h).1 lab ∧ (((lab.holdRun h).1.sim.state == .paused) = false) := by
  obtain ⟨hh, hsame, hgo⟩ := holdRun_of_restarts hr hs
  exact ⟨hh, ⟨hsame, hp.holdRun hk, hp⟩, hgo⟩

/-! ## A step -/

/-- Goes on from a stage of a step that did not fail. -/
def continueWith (x : Lab τ σ × Option Failure) (k : Lab τ σ → Lab τ σ × Option Failure) :
    Lab τ σ × Option Failure :=
  match x with
  | (lab, some f) => (lab, some f)
  | (lab, none) => k lab

theorem continueWith_none (lab : Lab τ σ) (k : Lab τ σ → Lab τ σ × Option Failure) :
    continueWith (lab, none) k = k lab := rfl

theorem step_eq (h : Handlers τ σ) (lab : Lab τ σ) :
    lab.step h =
      let lab₀ := (lab.beginStep h).clearForces
      let pert := lab₀.sim.perturb
      continueWith
        ((if pert.isEmpty then lab₀ else (lab₀.applyPerturbations pert).holdForcedPoses pert).runAllControllers.runPhase
          h .pre) fun lab =>
      continueWith (lab.runPhase h .mid) fun lab =>
      continueWith (if lab.run.detecting then lab.detectCollisions else lab).advance fun lab =>
      continueWith ((if pert.isEmpty then lab else lab.holdForcedPoses pert).runPhase h .post) fun lab =>
      (lab.completeStep h, none) := by
  unfold step
  dsimp only
  -- the stages that can fail, one after the other
  generalize (lab.beginStep h).clearForces = lab₀
  generalize lab₀.sim.perturb = pert
  generalize (if pert.isEmpty then lab₀ else (lab₀.applyPerturbations pert).holdForcedPoses pert).runAllControllers.runPhase
    h .pre = x
  rcases x with ⟨l, _ | f⟩
  · rw [continueWith_none]
    dsimp only
    generalize l.runPhase h .mid = x
    rcases x with ⟨l, _ | f⟩
    · rw [continueWith_none]
      dsimp only
      generalize (if l.run.detecting then l.detectCollisions else l).advance = x
      rcases x with ⟨l, _ | f⟩
      · rw [continueWith_none]
        dsimp only
        generalize (if pert.isEmpty then l else l.holdForcedPoses pert).runPhase h .post = x
        rcases x with ⟨l, _ | f⟩ <;> rfl
      · rfl
    · rfl
  · rfl

theorem SameResult.continueWith {x₁ x₂ : Lab τ σ × Option Failure} {k₁ k₂ : Lab τ σ → Lab τ σ × Option Failure}
    (hx : SameResult x₁ x₂) (hk : ∀ l₁ l₂, InStep l₁ l₂ → SameResult (k₁ l₁) (k₂ l₂)) :
    SameResult (continueWith x₁ k₁) (continueWith x₂ k₂) := by
  obtain ⟨l₁, a₁⟩ := x₁
  obtain ⟨l₂, a₂⟩ := x₂
  obtain ⟨hs, ha⟩ := hx
  dsimp only at hs ha
  subst ha
  cases a₁ with
  | none => exact hk l₁ l₂ hs
  | some f => exact ⟨hs, rfl⟩

/-! ## The end of a step -/

theorem SameRun.modifyRun {lab₁ lab₂ : Lab τ σ} (h : lab₁.SameRun lab₂) (f : Run → Run)
    (he : ∀ r, f r.erase = (f r).erase) (hb : ∀ r, (f r).bodies = r.bodies) (hr : ∀ r, (f r).record = r.record) :
    (lab₁.modifyRun f).SameRun (lab₂.modifyRun f) := by
  refine ⟨?_, ?_⟩
  · rw [← @modifyRun_erase _ _ lab₁ f he, h.erase, @modifyRun_erase _ _ lab₂ f he]
  · rw [@pending_modifyRun _ _ lab₁ f hb hr, @pending_modifyRun _ _ lab₂ f hb hr]
    exact h.pending

theorem sameRun_measure (lab : Lab τ σ) (f : Observe.Meter → Observe.Meter) : (lab.measure f).SameRun lab :=
  ⟨rfl, pending_eq_of_outbox rfl⟩

theorem SameRun.bufferResults {lab₁ lab₂ : Lab τ σ} (h : lab₁.SameRun lab₂) (hc₁ : lab₁.Coherent)
    (hc₂ : lab₂.Coherent) (k : Nat) (frame : Int) (time : Float) :
    (lab₁.bufferResults k frame time).SameRun (lab₂.bufferResults k frame time) := by
  have hsnap : lab₁.bufferedSnapshot k frame time = lab₂.bufferedSnapshot k frame time := by
    rw [← bufferedSnapshot_erase lab₁, h.erase, bufferedSnapshot_erase]
  rw [bufferResults_eq, bufferResults_eq, hsnap]
  generalize lab₂.bufferedSnapshot k frame time = snap
  have hsize := h.run_eq (·.bodies.size) fun r => Run.size_bodies_erase r
  refine ⟨?_, ?_⟩
  · rw [← erase_modifyBody_erase lab₁ k _ fun _ => rfl, h.erase, erase_modifyBody_erase lab₂ k _ fun _ => rfl]
  · by_cases hk : k < lab₁.run.bodies.size
    · -- the same item takes the same snapshot on both sides
      have hitem := h.run_eq (·.bodies[k]!.item) fun r => by simp
      have hrec := h.run_eq Run.record fun _ => rfl
      rw [pending_modifyBody_pushResult lab₁ hc₁ hk, pending_modifyBody_pushResult lab₂ hc₂ (hsize ▸ hk),
        h.pending, hitem, hrec]
    · -- a body past the end buffers nothing
      have hk₂ : lab₂.run.bodies.size ≤ k := hsize ▸ Nat.le_of_not_lt hk
      rw [modifyBody_of_le lab₁ k _ (Nat.le_of_not_lt hk), modifyBody_of_le lab₂ k _ hk₂]
      exact h.pending

theorem SameRun.foldl_bufferResults (frame : Int) (time : Float) :
    ∀ (ks : List Nat) {lab₁ lab₂ : Lab τ σ}, lab₁.SameRun lab₂ → lab₁.Coherent → lab₂.Coherent →
      (ks.foldl (fun lab k => lab.bufferResults k frame time) lab₁).SameRun
        (ks.foldl (fun lab k => lab.bufferResults k frame time) lab₂)
  | [], _, _, h, _, _ => h
  | k :: ks, lab₁, lab₂, h, hc₁, hc₂ =>
    SameRun.foldl_bufferResults frame time ks (h.bufferResults hc₁ hc₂ k frame time)
      (lab₁.coherent_bufferResults hc₁ k frame time) (lab₂.coherent_bufferResults hc₂ k frame time)

theorem SameRun.bufferAll {lab₁ lab₂ : Lab τ σ} (h : lab₁.SameRun lab₂) (hc₁ : lab₁.Coherent)
    (hc₂ : lab₂.Coherent) : lab₁.bufferAll.SameRun lab₂.bufferAll := by
  have hsize := h.run_eq (·.bodies.size) fun r => Run.size_bodies_erase r
  have hframe := h.run_eq Run.frame fun _ => rfl
  have htime := h.run_eq Run.time fun _ => rfl
  unfold Lab.bufferAll
  dsimp only at hsize hframe htime ⊢
  rw [hsize, hframe, htime]
  exact SameRun.foldl_bufferResults _ _ _ h hc₁ hc₂

theorem SameRun.completeStep {lab₁ lab₂ : Lab τ σ} (h : lab₁.SameRun lab₂) (hc₁ : lab₁.Coherent)
    (hc₂ : lab₂.Coherent) (h₁ h₂ : Handlers τ σ) : (lab₁.completeStep h₁).SameRun (lab₂.completeStep h₂) := by
  -- the frame advances alike, keeping the buffers and what they feed
  have hnext : ∀ lab : Lab τ σ, lab.Coherent →
      (lab.modifyRun fun r => { r with frame := r.frame + 1 }).Coherent :=
    fun lab hc => lab.coherent_modifyRun (fun _ => rfl) (fun _ => rfl) hc
  have hA := h.modifyRun (fun r => { r with frame := r.frame + 1 }) (fun _ => rfl) (fun _ => rfl) (fun _ => rfl)
  have hcA₁ := hnext lab₁ hc₁
  have hcA₂ := hnext lab₂ hc₂
  unfold Lab.completeStep
  dsimp only
  generalize lab₁.modifyRun (fun r => { r with frame := r.frame + 1 }) = a₁ at hA hcA₁
  generalize lab₂.modifyRun (fun r => { r with frame := r.frame + 1 }) = a₂ at hA hcA₂
  rw [hA.run_eq Run.frame fun _ => rfl]
  generalize a₂.run.frame = frame
  -- the current frame is what the erasure keeps; the snapshots are buffered alike
  have hB := hA.map (fun lab => lab.modifySim fun s => { s with currentFrame := frame }) (fun _ => rfl) (fun _ => rfl)
  have hC := hB.bufferAll (hcA₁.of_eq (by rfl) (by rfl)) (hcA₂.of_eq (by rfl) (by rfl))
  generalize (a₁.modifySim fun s => { s with currentFrame := frame }).bufferAll = c₁ at hC
  generalize (a₂.modifySim fun s => { s with currentFrame := frame }).bufferAll = c₂ at hC
  have hD := ((c₁.sameRun_measure (·.setFrame frame)).trans hC).trans (c₂.sameRun_measure (·.setFrame frame)).symm
  exact ((sameRun_flush_if _ _).trans hD).trans (sameRun_flush_if _ _).symm

theorem InStep.completeStep {lab₁ lab₂ : Lab τ σ} (h : InStep lab₁ lab₂) (h₁ h₂ : Handlers τ σ) :
    InStep (lab₁.completeStep h₁) (lab₂.completeStep h₂) :=
  ⟨h.same.completeStep h.left.coherent h.right.coherent h₁ h₂, h.left.completeStep h₁, h.right.completeStep h₂⟩

/-! ## The loop, one turn at a time -/

section Turns

variable (h : Handlers τ σ) (n : Nat) {lab : Lab τ σ}

theorem loop_of_stop (hs : lab.run.stop = true) : loop h (n + 1) lab = (lab, {}) := by
  rw [loop, if_pos hs]

theorem loop_of_holding (hs : lab.run.stop = false) (hp : (lab.sim.state == .paused) = true)
    (hh : (lab.holdRun h).2 = true) : loop h (n + 1) lab = loop h n (lab.holdRun h).1 := by
  rw [loop, hs, hp, if_neg Bool.false_ne_true, if_pos rfl]
  generalize lab.holdRun h = x at hh
  obtain ⟨l, b⟩ := x
  dsimp only at hh
  subst hh
  rfl

theorem loop_of_failed {l : Lab τ σ} {e : Failure} (hs : lab.run.stop = false)
    (hp : (lab.sim.state == .paused) = false) (hx : lab.step h = (l, some e)) :
    loop h (n + 1) lab = (l, { abnormal := true, err := some e }) := by
  rw [loop, hs, hp, if_neg Bool.false_ne_true, if_neg Bool.false_ne_true, hx]

theorem loop_of_stepped {l : Lab τ σ} (hs : lab.run.stop = false) (hp : (lab.sim.state == .paused) = false)
    (hx : lab.step h = (l, none)) :
    loop h (n + 1) lab =
      if (l.measure (·.observeStep 0)).reachedEnd then (l.measure (·.observeStep 0), {})
      else loop h n (l.measure (·.observeStep 0)) := by
  rw [loop, hs, hp, if_neg Bool.false_ne_true, if_neg Bool.false_ne_true, hx]

end Turns

/-! ## The end of a run -/

/-- The end of a run after its last publication: the controllers of its
bodies are stopped, the engine and the detector release the run, the hooks
are dropped, and how the run `r` ended is recorded, reported and traced. -/
def closeRun (lab : Lab τ σ) (r : Run) (finish : FinishInfo) : Lab τ σ :=
  let lab := (lab.stopBodies r.bodies).modifySim fun s => { s with
    backend := s.backend.map (·.finish),
    detector := if r.detecting then s.detector.map fun d => { d with spheres := {} } else s.detector,
    pre := {}, mid := {}, post := {} }
  let finish := { finish with frame := r.frame, time := r.time }
  let lab := (lab.modifySim fun s => { s with
    run := none, lastFrame := r.frame, lastFinish := finish }).setState .idle
  let lab := lab.measure (·.incRuns finish.abnormal)
  match r.span with
  | some span =>
    let span := span.withAttributes [("sim.frames", .int (r.frame - r.startFrame)),
      ("sim.abnormal", .bool finish.abnormal)]
    lab.trace (match finish.err with
      | some e => span.fail e.message "*dynamo.SimulationError"
      | none => span)
  | none => lab

theorem teardown_eq (h : Handlers τ σ) (lab : Lab τ σ) (finish : FinishInfo) :
    lab.teardown h finish =
      h.event { kind := .finished, frame := lab.flush.run.frame, time := lab.flush.run.time,
                finish := { finish with frame := lab.flush.run.frame, time := lab.flush.run.time } }
        (closeRun lab.flush lab.flush.run finish) := rfl

section Close

variable (lab : Lab τ σ) (r : Run) (finish : FinishInfo)

theorem sim_run_closeRun : (closeRun lab r finish).sim.run = none := by
  unfold closeRun
  cases r.span <;> rfl

@[simp] theorem items_closeRun : (closeRun lab r finish).items = lab.items := by
  unfold closeRun
  cases r.span <;> rfl

theorem stopBodies_run_erase : lab.stopBodies r.erase.bodies = lab.stopBodies r.bodies := by
  simp only [stopBodies, Run.erase, Array.foldl_map, SimBody.slots_erase]

theorem closeRun_run_erase : closeRun lab r.erase finish = closeRun lab r finish := by
  unfold closeRun
  rw [stopBodies_run_erase]
  rfl

theorem closeRun_erase : (closeRun lab.erase r finish).erase = (closeRun lab r finish).erase := by
  unfold closeRun
  cases r.span <;> simp [erase, stopBodies, modifySim, setState, measure, trace, BodyItem.erase, Function.comp_def]

theorem pending_closeRun : (closeRun lab r finish).pending = (closeRun lab r finish).items.map BodyItem.published :=
  pending_of_run_none _ (sim_run_closeRun lab r finish)

end Close

section Drivers

variable {h₁ h₂ : Handlers τ σ} (hag : h₁.Agree h₂) (hk₁ : h₁.KeepsRecords) (hk₂ : h₂.KeepsRecords)
include hag hk₁ hk₂

theorem InStep.event (ev : Event) {lab₁ lab₂ : Lab τ σ} (h : InStep lab₁ lab₂) :
    InStep (h₁.event ev lab₁) (h₂.event ev lab₂) :=
  ⟨hag.event ev _ _ h.same, h.left.of_records (hk₁.2 ev lab₁), h.right.of_records (hk₂.2 ev lab₂)⟩

theorem InStep.runEntries :
    ∀ (es : List (Nat × τ)) {lab₁ lab₂ : Lab τ σ}, InStep lab₁ lab₂ →
      SameResult (runEntries h₁ es lab₁) (runEntries h₂ es lab₂)
  | [], _, _, h => ⟨h, rfl⟩
  | (id, task) :: rest, lab₁, lab₂, h => by
    obtain ⟨hs, ha⟩ := hag.hook id task lab₁ lab₂ h.same
    have hl := h.left.of_records (hk₁.1 id task lab₁)
    have hr := h.right.of_records (hk₂.1 id task lab₂)
    simp only [Lab.runEntries]
    generalize h₁.hook id task lab₁ = x₁ at hs ha hl
    generalize h₂.hook id task lab₂ = x₂ at hs ha hr
    obtain ⟨l₁, a₁⟩ := x₁
    obtain ⟨l₂, a₂⟩ := x₂
    dsimp only at hs ha hl hr
    subst ha
    cases a₁ with
    | some m => exact ⟨⟨hs, hl, hr⟩, rfl⟩
    | none => exact InStep.runEntries rest ⟨hs, hl, hr⟩

theorem InStep.runPhase (ph : Phase) {lab₁ lab₂ : Lab τ σ} (h : InStep lab₁ lab₂) :
    SameResult (lab₁.runPhase h₁ ph) (lab₂.runPhase h₂ ph) := by
  -- the hook registries are part of what is simulated
  have hhooks : lab₁.hooksOf ph = lab₂.hooksOf ph := by
    have := congrArg (fun l : Lab τ σ => l.hooksOf ph) h.same.erase
    cases ph <;> exact this
  obtain ⟨⟨hs, hl, hr⟩, ha⟩ := InStep.runEntries hag hk₁ hk₂ (lab₁.hooksOf ph).entries.toList h
  unfold Lab.runPhase Lab.runHooks
  rw [← hhooks]
  generalize Lab.runEntries h₁ (lab₁.hooksOf ph).entries.toList lab₁ = x₁ at hs ha hl
  generalize Lab.runEntries h₂ (lab₁.hooksOf ph).entries.toList lab₂ = x₂ at hs ha hr
  obtain ⟨l₁, a₁⟩ := x₁
  obtain ⟨l₂, a₂⟩ := x₂
  dsimp only at hs ha hl hr
  subst ha
  cases a₁ with
  | none => exact ⟨⟨hs, hl, hr⟩, rfl⟩
  | some e =>
    refine ⟨⟨hs, hl, hr⟩, ?_⟩
    dsimp only
    rw [hs.run_eq (fun r => stepError r .hookFailed (some e)) fun r => stepError_erase r _ _]

theorem InStep.beginStep {lab₁ lab₂ : Lab τ σ} (h : InStep lab₁ lab₂) :
    InStep (lab₁.beginStep h₁) (lab₂.beginStep h₂) := by
  -- the queued hook changes take effect alike
  have h₀ := h.map (fun lab => lab.modifySim fun s => { s with pre := s.pre.apply, mid := s.mid.apply, post := s.post.apply })
    (fun _ => rfl) (fun _ => rfl)
  unfold Multibody.Sim.Lab.beginStep
  dsimp only at h₀ ⊢
  generalize lab₁.modifySim (fun s => { s with pre := s.pre.apply, mid := s.mid.apply, post := s.post.apply }) = l₁ at h₀
  generalize lab₂.modifySim (fun s => { s with pre := s.pre.apply, mid := s.mid.apply, post := s.post.apply }) = l₂ at h₀
  rw [← h₀.same.run_eq Run.activityDirty fun _ => rfl]
  split
  · -- a changed activity: the active list is rebuilt, reported and announced alike
    have h₁' := (h₀.map (fun lab => lab.modifyRun fun r => { r.rebuildActive with activityDirty := false })
      (fun lab => lab.modifyRun_erase fun r => by rw [Run.rebuildActive_erase]; rfl)
      (fun lab => lab.outbox_modifyRun fun r => Run.outbox_rebuildActive r))
    have h₂' := h₁'.map (fun lab => lab.measure (·.setActive lab.run.active.size)) (fun _ => rfl) (fun _ => rfl)
    have hev := h₁'.same.run_eq (fun r : Run =>
      ({ kind := .bodyListUpdated, frame := r.frame, time := r.time, active := r.active } : Event)) fun _ => rfl
    dsimp only at h₂' hev ⊢
    rw [hev]
    exact InStep.event hag hk₁ hk₂ _ h₂'
  · exact h₀

theorem InStep.step {lab₁ lab₂ : Lab τ σ} (h : InStep lab₁ lab₂) :
    SameResult (lab₁.step h₁) (lab₂.step h₂) := by
  have h₀ := (h.beginStep hag hk₁ hk₂).map clearForces (fun lab => clearForces_erase lab)
    (fun lab => outbox_clearForces lab)
  rw [step_eq, step_eq]
  dsimp only
  generalize (lab₁.beginStep h₁).clearForces = a₁ at h₀
  generalize (lab₂.beginStep h₂).clearForces = a₂ at h₀
  -- the perturbations are part of what is simulated
  have hpert : a₁.sim.perturb = a₂.sim.perturb := by
    have := congrArg (fun l : Lab τ σ => l.sim.perturb) h₀.same.erase
    exact this
  rw [← hpert]
  generalize a₁.sim.perturb = pert
  have hA := (InStep.ite pert.isEmpty h₀ ((h₀.map (applyPerturbations · pert)
    (fun lab => applyPerturbations_erase lab pert) (fun lab => outbox_applyPerturbations lab pert)).map
      (holdForcedPoses · pert) (fun lab => holdForcedPoses_erase lab pert)
      (fun lab => outbox_holdForcedPoses lab pert))).map runAllControllers
    (fun lab => runAllControllers_erase lab) (fun lab => outbox_runAllControllers lab)
  refine SameResult.continueWith (hA.runPhase hag hk₁ hk₂ .pre) fun l₁ l₂ hl => ?_
  refine SameResult.continueWith (hl.runPhase hag hk₁ hk₂ .mid) fun l₁ l₂ hl => ?_
  rw [hl.same.run_eq Run.detecting fun _ => rfl]
  have hB := InStep.ite l₂.run.detecting (hl.map detectCollisions (fun lab => detectCollisions_erase lab)
    (fun lab => outbox_detectCollisions lab)) hl
  refine SameResult.continueWith (hB.map₂ advance (fun lab => advance_erase lab) (fun lab => outbox_advance lab))
    fun l₁ l₂ hl => ?_
  have hC := InStep.ite pert.isEmpty hl (hl.map (holdForcedPoses · pert) (fun lab => holdForcedPoses_erase lab pert)
    (fun lab => outbox_holdForcedPoses lab pert))
  refine SameResult.continueWith (hC.runPhase hag hk₁ hk₂ .post) fun l₁ l₂ hl => ?_
  exact ⟨hl.completeStep h₁ h₂, rfl⟩

theorem InStep.turn {n : Nat}
    (ih : ∀ {l₁ l₂ : Lab τ σ}, InStep l₁ l₂ → ∃ m, SameResult (Lab.loop h₁ n l₁) (Lab.loop h₂ m l₂))
    {lab₁ lab₂ : Lab τ σ} (h : InStep lab₁ lab₂) (hs₁ : lab₁.run.stop = false)
    (hp₁ : (lab₁.sim.state == .paused) = false) (hs₂ : lab₂.run.stop = false)
    (hp₂ : (lab₂.sim.state == .paused) = false) :
    ∃ m, SameResult (Lab.loop h₁ (n + 1) lab₁) (Lab.loop h₂ m lab₂) := by
  have hst := InStep.step hag hk₁ hk₂ h
  rcases hx₁ : lab₁.step h₁ with ⟨a₁, _ | e₁⟩ <;> rcases hx₂ : lab₂.step h₂ with ⟨a₂, _ | e₂⟩ <;>
    rw [hx₁, hx₂] at hst <;> obtain ⟨ha, he⟩ := hst <;> dsimp only at ha he
  · -- both went through: the ends of the run are read off what is simulated
    have hm := ha.map (·.measure (·.observeStep 0)) (fun lab => measure_erase lab _) (fun lab => outbox_measure lab _)
    have hend : (a₁.measure (·.observeStep 0)).reachedEnd = (a₂.measure (·.observeStep 0)).reachedEnd := by
      rw [← reachedEnd_erase, hm.same.erase, reachedEnd_erase]
    rw [loop_of_stepped h₁ n hs₁ hp₁ hx₁]
    cases hr : (a₁.measure (·.observeStep 0)).reachedEnd with
    | true =>
      refine ⟨1, ?_⟩
      rw [loop_of_stepped h₂ 0 hs₂ hp₂ hx₂, ← hend, hr, if_pos rfl, if_pos rfl]
      exact ⟨hm, rfl⟩
    | false =>
      obtain ⟨m, hm'⟩ := ih hm
      refine ⟨m + 1, ?_⟩
      rw [loop_of_stepped h₂ m hs₂ hp₂ hx₂, ← hend, hr, if_neg Bool.false_ne_true, if_neg Bool.false_ne_true]
      exact hm'
  · exact absurd he (by simp)
  · exact absurd he (by simp)
  · -- both failed alike
    refine ⟨1, ?_⟩
    rw [loop_of_failed h₁ n hs₁ hp₁ hx₁, loop_of_failed h₂ 0 hs₂ hp₂ hx₂]
    obtain rfl := Option.some.inj he
    exact ⟨ha, rfl⟩

/-- Two loops in step stay in step, whatever holds either makes: every turn
of the first is matched by the second, the holds of either in between, and
both end alike.  The induction is on the turns of the first loop; a hold of
the second costs it one turn more. -/
theorem InStep.loop (hr₁ : h₁.Restarts) (hr₂ : h₂.Restarts) :
    ∀ (n : Nat) {lab₁ lab₂ : Lab τ σ}, InStep lab₁ lab₂ → ∃ m, SameResult (Lab.loop h₁ n lab₁) (Lab.loop h₂ m lab₂)
  | 0, _, _, h => ⟨0, h, rfl⟩
  | n + 1, lab₁, lab₂, h => by
    have hstop := h.same.run_eq Run.stop fun _ => rfl
    cases hs₁ : lab₁.run.stop with
    | true => exact ⟨0, by rw [loop_of_stop h₁ n hs₁]; exact ⟨h, rfl⟩⟩
    | false =>
      have hs₂ : lab₂.run.stop = false := hstop ▸ hs₁
      cases hp₁ : (lab₁.sim.state == .paused) with
      | true =>
        -- the first holds, and goes on in step
        obtain ⟨hh, hin, -⟩ := InStep.holdRun hr₁ hk₁ h.left hs₁
        rw [loop_of_holding h₁ n hs₁ hp₁ hh]
        exact InStep.loop hr₁ hr₂ n (hin.trans h)
      | false =>
        cases hp₂ : (lab₂.sim.state == .paused) with
        | false => exact h.turn hag hk₁ hk₂ (InStep.loop hr₁ hr₂ n) hs₁ hp₁ hs₂ hp₂
        | true =>
          -- the second holds first, and goes on in step
          obtain ⟨hh, hin, hgo⟩ := InStep.holdRun hr₂ hk₂ h.right hs₂
          have hsh : (lab₂.holdRun h₂).1.run.stop = false := by
            rw [hin.same.run_eq Run.stop fun _ => rfl]
            exact hs₂
          obtain ⟨m, hm⟩ := (h.trans hin.symm).turn hag hk₁ hk₂ (InStep.loop hr₁ hr₂ n) hs₁ hp₁ hsh hgo
          exact ⟨m + 1, by rw [loop_of_holding h₂ m hs₂ hp₂ hh]; exact hm⟩

omit hk₁ hk₂ in
theorem InStep.teardown {lab₁ lab₂ : Lab τ σ} (h : InStep lab₁ lab₂) (finish : FinishInfo) :
    (lab₁.teardown h₁ finish).SameRun (lab₂.teardown h₂ finish) := by
  have hf : lab₁.flush.SameRun lab₂.flush := ((sameRun_flush lab₁).trans h.same).trans (sameRun_flush lab₂).symm
  have hr : lab₁.flush.run.erase = lab₂.flush.run.erase := by rw [← run_erase, hf.erase, run_erase]
  have hc : (closeRun lab₁.flush lab₁.flush.run finish).SameRun (closeRun lab₂.flush lab₂.flush.run finish) := by
    refine ⟨?_, ?_⟩
    · rw [← closeRun_erase, ← closeRun_run_erase, hf.erase, hr, closeRun_run_erase, closeRun_erase]
    · rw [pending_closeRun, pending_closeRun, items_closeRun, items_closeRun]
      exact h.same.pending
  rw [teardown_eq, teardown_eq, hf.run_eq Run.frame fun _ => rfl, hf.run_eq Run.time fun _ => rfl]
  exact hag.event _ _ _ hc

end Drivers

theorem sim_run_teardown {h : Handlers τ σ} (hk : h.KeepsRecords) (lab : Lab τ σ) (finish : FinishInfo) :
    (lab.teardown h finish).sim.run = none := by
  have hrun := congrArg Records.run (lab.records_teardown hk finish)
  simpa [records, Records.finish] using hrun

theorem SameResult.teardown {h₁ h₂ : Handlers τ σ} (hag : h₁.Agree h₂) (hk₁ : h₁.KeepsRecords)
    (hk₂ : h₂.KeepsRecords) {x₁ x₂ : Lab τ σ × FinishInfo} (hx : SameResult x₁ x₂) :
    (x₁.1.teardown h₁ x₁.2).erase = (x₂.1.teardown h₂ x₂.2).erase ∧
      (x₁.1.teardown h₁ x₁.2).items.map BodyItem.published = (x₂.1.teardown h₂ x₂.2).items.map BodyItem.published := by
  obtain ⟨hin, hfin⟩ := hx
  have hT := InStep.teardown hag hin x₁.2
  rw [hfin] at hT ⊢
  -- nothing is left to publish, so what is pending is what the items show
  refine ⟨hT.erase, ?_⟩
  rw [← pending_of_run_none _ (sim_run_teardown hk₁ _ _), ← pending_of_run_none _ (sim_run_teardown hk₂ _ _)]
  exact hT.pending

/-! ## A start -/

/-- A lab just set up, before its run is announced: the run is traced when
the simulator is, and goes. -/
def opened (lab : Lab τ σ) (reset : Bool) : Lab τ σ :=
  let startSpan : Observe.Span :=
    { name := "sim.StartSimulation", scope := Observe.simScope, attributes := [("sim.reset", .bool reset)] }
  let r := lab.run
  let runSpan : Observe.Span :=
    { name := "sim.Run", parent := some startSpan.name, scope := Observe.simScope,
      attributes := [("sim.run_id", .str r.id), ("sim.bodies", .int r.bodies.size),
                     ("sim.start_frame", .int r.startFrame)] }
  let lab := if lab.sim.tracer.isSome then lab.modifyRun fun r => { r with span := some runSpan } else lab
  (lab.trace startSpan).setState .running

theorem records_opened (lab : Lab τ σ) (reset : Bool) : (lab.opened reset).records = lab.records := by
  unfold opened
  dsimp only
  rw [records_setState, records_trace]
  split
  · exact records_modifyRun _ fun _ => rfl
  · rfl

section Start

variable (h : Handlers τ σ) (fuel : Nat) (reset : Bool) {lab : Lab τ σ}

theorem start_of_running (hrun : lab.sim.run.isSome = true) :
    lab.start h fuel reset = (lab, some (.condition .alreadyRunning)) := by
  unfold start
  rw [if_pos hrun]

theorem start_of_setup {L : Lab τ σ} (hrun : lab.sim.run = none) (hsetup : lab.setup reset = (L, none)) :
    lab.start h fuel reset =
      let started :=
        h.event { kind := .started, frame := (L.opened reset).run.frame, time := (L.opened reset).run.time }
          (L.opened reset)
      ((loop h fuel started).1.teardown h (loop h fuel started).2, none) := by
  unfold start
  rw [if_neg (by simp [hrun]), hsetup]
  rfl

end Start

end Lab

/-- Pauses and flushes do not change what a run simulates.  Two drivers that
act alike on what is simulated, and keep what is published, may hold the
run at different times, restarting every hold at once, and publish after
different steps: for every number of turns of the first loop, the second
loop, given enough turns of its own, ends alike.  Both starts give the same
answer, the same lab once what runs publish is erased, and every item the
same state and the same recording. -/
theorem pauses_and_flushes_keep_the_run (h₁ h₂ : Handlers τ σ) (hag : h₁.Agree h₂) (hr₁ : h₁.Restarts)
    (hr₂ : h₂.Restarts) (hk₁ : h₁.KeepsRecords) (hk₂ : h₂.KeepsRecords) (fuel₁ : Nat) (reset : Bool)
    (lab : Lab τ σ) (hworld : lab.world.bodies.toList.Nodup) (hrange : ∀ i ∈ lab.world.bodies, i < lab.items.size)
    (hlast : 0 ≤ lab.sim.lastFrame) :
    ∃ fuel₂, (lab.start h₁ fuel₁ reset).2 = (lab.start h₂ fuel₂ reset).2 ∧
      (lab.start h₁ fuel₁ reset).1.erase = (lab.start h₂ fuel₂ reset).1.erase ∧
      (lab.start h₁ fuel₁ reset).1.items.map BodyItem.published =
        (lab.start h₂ fuel₂ reset).1.items.map BodyItem.published := by
  by_cases hrun : lab.sim.run.isSome = true
  · -- a run is going: both refuse alike
    refine ⟨0, ?_⟩
    rw [Lab.start_of_running h₁ fuel₁ reset hrun, Lab.start_of_running h₂ 0 reset hrun]
    exact ⟨rfl, rfl, rfl⟩
  replace hrun : lab.sim.run = none := by simpa using hrun
  rcases hsetup : lab.setup reset with ⟨L, _ | f⟩
  · -- the run is announced alike, from a lab publishing as a run does
    obtain ⟨S, -, -, -, -, -, hS⟩ := lab.publishing_setup hworld hrange hlast (by rw [hsetup])
    rw [hsetup] at hS
    have hp : (L.opened reset).Publishes := ⟨S, S.start, by rw [Lab.records_opened]; exact hS⟩
    have h₀ := Lab.InStep.event hag hk₁ hk₂
      { kind := .started, frame := (L.opened reset).run.frame, time := (L.opened reset).run.time }
      ⟨Lab.SameRun.refl _, hp, hp⟩
    -- the loops stay in step, and the runs end alike
    obtain ⟨m, hm⟩ := Lab.InStep.loop hag hk₁ hk₂ hr₁ hr₂ fuel₁ h₀
    refine ⟨m, ?_⟩
    rw [Lab.start_of_setup h₁ fuel₁ reset hrun hsetup, Lab.start_of_setup h₂ m reset hrun hsetup]
    exact ⟨rfl, hm.teardown hag hk₁ hk₂⟩
  · -- the setup fails: the drivers are never asked
    have hs : (lab.setup reset).2 = some f := by rw [hsetup]
    refine ⟨0, ?_⟩
    rw [lab.start_of_setup_failure hrun hs h₁ fuel₁, lab.start_of_setup_failure hrun hs h₂ 0]
    exact ⟨rfl, rfl, rfl⟩

/-! ## Drivers that hold the run at different times -/

theorem Handlers.restarts_of_running {h : Handlers τ σ}
    (hrun : ∀ ev lab, ev.kind = .paused ∨ ev.kind = .resumed → h.event ev lab = lab.setState .running) :
    h.Restarts where
  same ev lab hev := by
    rw [hrun ev lab hev]
    exact Lab.sameRun_setState lab .running
  going ev lab hev := by
    rw [hrun ev lab hev]
    rfl

/-- A driver that holds the run as soon as it starts, restarts every hold at
once and publishes after every step. -/
def pausingHandlers : Handlers Unit Unit where
  hook _ _ lab := (lab, none)
  event ev lab :=
    match ev.kind with
    | .started => lab.setState .paused
    | .paused | .resumed => lab.setState .running
    | _ => lab
  flushAfter _ := true

/-- A driver that never holds the run and publishes only at its end. -/
def steadyHandlers : Handlers Unit Unit where
  hook _ _ lab := (lab, none)
  event ev lab :=
    match ev.kind with
    | .paused | .resumed => lab.setState .running
    | _ => lab

theorem pausingHandlers_restarts : pausingHandlers.Restarts :=
  Handlers.restarts_of_running fun ev lab hev => by
    rcases hev with hk | hk <;> simp only [pausingHandlers, hk]

theorem steadyHandlers_restarts : steadyHandlers.Restarts :=
  Handlers.restarts_of_running fun ev lab hev => by
    rcases hev with hk | hk <;> simp only [steadyHandlers, hk]

theorem pausingHandlers_keepsRecords : pausingHandlers.KeepsRecords := by
  refine ⟨fun _ _ _ => rfl, fun ev lab => ?_⟩
  simp only [pausingHandlers]
  split <;> simp only [Lab.records_setState]

theorem steadyHandlers_keepsRecords : steadyHandlers.KeepsRecords := by
  refine ⟨fun _ _ _ => rfl, fun ev lab => ?_⟩
  simp only [steadyHandlers]
  split <;> simp only [Lab.records_setState]

theorem pausingHandlers_agree : pausingHandlers.Agree steadyHandlers where
  hook _ _ _ _ h := ⟨h, rfl⟩
  event ev lab₁ lab₂ h := by
    have hset : ∀ st, (lab₁.setState st).SameRun lab₂ := fun st => (Lab.sameRun_setState lab₁ st).trans h
    cases hk : ev.kind with
    | started =>
      simp only [pausingHandlers, steadyHandlers, hk]
      exact hset .paused
    | paused =>
      simp only [pausingHandlers, steadyHandlers, hk]
      exact (hset .running).trans (Lab.sameRun_setState lab₂ .running).symm
    | resumed =>
      simp only [pausingHandlers, steadyHandlers, hk]
      exact (hset .running).trans (Lab.sameRun_setState lab₂ .running).symm
    | finished =>
      simp only [pausingHandlers, steadyHandlers, hk]
      exact h
    | bodyListUpdated =>
      simp only [pausingHandlers, steadyHandlers, hk]
      exact h

theorem pauses_and_flushes_keep_the_run_armLab :
    pausingHandlers.Agree steadyHandlers ∧ pausingHandlers.Restarts ∧ steadyHandlers.Restarts ∧
      pausingHandlers.KeepsRecords ∧ steadyHandlers.KeepsRecords ∧ armLab.world.bodies.toList.Nodup ∧
      (∀ i ∈ armLab.world.bodies, i < armLab.items.size) ∧ 0 ≤ armLab.sim.lastFrame ∧
      ∃ fuel₂, (armLab.start pausingHandlers 3 true).2 = (armLab.start steadyHandlers fuel₂ true).2 ∧
        (armLab.start pausingHandlers 3 true).1.erase = (armLab.start steadyHandlers fuel₂ true).1.erase ∧
        (armLab.start pausingHandlers 3 true).1.items.map BodyItem.published =
          (armLab.start steadyHandlers fuel₂ true).1.items.map BodyItem.published := by
  have hw : armLab.world.bodies.toList.Nodup := by decide
  have hr : ∀ i ∈ armLab.world.bodies, i < armLab.items.size := by decide
  have hl : 0 ≤ armLab.sim.lastFrame := by decide
  exact ⟨pausingHandlers_agree, pausingHandlers_restarts, steadyHandlers_restarts, pausingHandlers_keepsRecords,
    steadyHandlers_keepsRecords, hw, hr, hl,
    pauses_and_flushes_keep_the_run pausingHandlers steadyHandlers pausingHandlers_agree pausingHandlers_restarts
      steadyHandlers_restarts pausingHandlers_keepsRecords steadyHandlers_keepsRecords 3 true armLab hw hr hl⟩

end Multibody.Sim
