import Multibody.Proofs.Hooks.Calls

/-!
# What a run tells its observers

An observer that writes down every event with the records it sees
(`Handlers.Observes`) sees one `RunTrail` per run: Started, a `Trail` of the
loop, then Finished once the buffers are published.  A `Trail` says once
what a step boundary, a step and a hold can tell and do to the records.  The
loop follows a trail whatever the handlers do, as long as they keep the
published records (`Lab.loop_trail`, `Lab.start_trail`,
`Lab.obs_start_of_failure`).
-/

namespace Multibody.Sim

variable {τ σ : Type}

namespace Records

/-- The frame of the current run, `0` when there is none. -/
def frame (R : Records) : Int := (R.run.map (·.frame)).getD 0

theorem run_frame_flushBody (rr : RunRecords) (acc : Records × Nat × Int) (k : Nat) :
    (flushBody rr acc k).1.run.map (·.frame) = acc.1.run.map (·.frame) := by
  unfold flushBody
  split
  · rfl
  · split
    · rfl
    · cases acc.1.run <;> rfl

@[simp] theorem frame_flush (R : Records) : R.flush.frame = R.frame := by
  unfold flush
  cases hr : R.run with
  | none => rfl
  | some rr =>
    have hfold := foldl_keeps (fun acc : Records × Nat × Int => acc.1.run.map (·.frame)) (flushBody rr)
      (run_frame_flushBody rr) (List.range rr.bodies.length) (R, 0, -1)
    dsimp only at hfold ⊢
    rcases hf : (List.range rr.bodies.length).foldl (flushBody rr) (R, 0, -1) with ⟨R', total, last⟩
    rw [hf] at hfold
    dsimp only at hfold ⊢
    split <;> simp only [frame, hfold, hr]

theorem frame_le_advanceFrame (R : Records) : R.frame ≤ R.advanceFrame.frame := by
  cases hr : R.run with
  | none => simp [frame, advanceFrame, hr]
  | some rr =>
    simp only [frame, advanceFrame, hr, Option.map_some, Option.getD_some]
    omega

end Records

namespace Handlers

/-- An observer that writes down, in the driver's state, every event it is
given with the records the lab shows when it is given; the hooks leave what
it wrote alone. -/
structure Observes (h : Handlers τ σ) (obs : σ → List (Event × Records)) : Prop where
  event : ∀ ev (lab : Lab τ σ), obs (h.event ev lab).session = obs lab.session ++ [(ev, lab.records)]
  hook : ∀ id task (lab : Lab τ σ), obs (h.hook id task lab).1.session = obs lab.session

end Handlers

/-- What the loop of a run does from records `R` to records `R'`, with what it
tells its observers and the records they see. -/
inductive Trail : Records → List (Event × Records) → Records → Prop
  /-- the run ends: stopped, out of steps, failed or at its end -/
  | stop (R : Records) : Trail R [] R
  /-- a step boundary announces a changed body list at the frame it starts from -/
  | announce {R R' : Records} {m : List (Event × Records)} {ev : Event} (hk : ev.kind = .bodyListUpdated)
      (hf : ev.frame = R.frame) (rest : Trail R m R') : Trail R ((ev, R) :: m) R'
  /-- a step keeps the records, buffers one more frame, or buffers it and publishes -/
  | step {R R' R'' : Records} {m : List (Event × Records)}
      (hR : R' = R ∨ R' = R.advanceFrame ∨ R' = R.advanceFrame.flush) (rest : Trail R' m R'') : Trail R m R''
  /-- a hold publishes and tells of the pause, and the run ends held or stopped -/
  | held {R : Records} {ev : Event} (hk : ev.kind = .paused) (hf : ev.frame = R.frame) :
      Trail R [(ev, R.flush)] R.flush
  /-- a hold publishes, tells of the pause and of the resumption, and the run goes on -/
  | resumed {R R' : Records} {m : List (Event × Records)} {ev ev' : Event} (hk : ev.kind = .paused)
      (hk' : ev'.kind = .resumed) (hf : ev.frame = R.frame) (hf' : ev'.frame = R.frame)
      (rest : Trail R.flush m R') : Trail R ((ev, R.flush) :: (ev', R.flush) :: m) R'

/-- A whole run, from the records its setup leaves to those it ends with:
Started at the start frame, a trail, and Finished at the frame the trail
ends at, with the finish `fin`, told with the buffers published and the run
closed. -/
inductive RunTrail : Records → List (Event × Records) → Records → FinishInfo → Prop
  | run {R₀ R : Records} {m : List (Event × Records)} {ev ev' : Event} (hk : ev.kind = .started)
      (hf : ev.frame = R₀.frame) (trail : Trail R₀ m R) (hk' : ev'.kind = .finished) (hf' : ev'.frame = R.frame)
      (hfin : ev'.finish.frame = R.frame) :
      RunTrail R₀ ((ev, R₀) :: m ++ [(ev', R.flush.finish)]) R.flush.finish ev'.finish

namespace Lab

variable {h : Handlers τ σ} {obs : σ → List (Event × Records)}

@[simp] theorem frame_records (lab : Lab τ σ) : lab.records.frame = lab.run.frame := frame_records_run lab

theorem run_frame_flush (lab : Lab τ σ) : lab.flush.run.frame = lab.records.frame := by
  rw [run_flush, frame_records]

/-! ## One stage at a time -/

section Closing

variable (lab : Lab τ σ) (r : Run) (finish : FinishInfo)

@[simp] theorem session_closeRun : (closeRun lab r finish).session = lab.session := by
  unfold closeRun
  cases r.span <;> rfl

theorem lastFinish_closeRun :
    (closeRun lab r finish).sim.lastFinish = { finish with frame := r.frame, time := r.time } := by
  unfold closeRun
  cases r.span <;> rfl

theorem records_closeRun : (closeRun lab lab.run finish).records = lab.records.finish := by
  unfold closeRun Records.finish
  rw [frame_records_run]
  cases lab.run.span <;> rfl

end Closing

theorem told_beginStep (ho : h.Observes obs) (lab : Lab τ σ) :
    ∃ told : Option Event, (∀ ev ∈ told, ev.kind = .bodyListUpdated ∧ ev.frame = lab.records.frame) ∧
      obs (lab.beginStep h).session = obs lab.session ++ told.toList.map (·, lab.records) := by
  unfold beginStep
  dsimp only
  split
  · -- the records the announcement is made with are those of the boundary
    have hrec : ((lab.modifySim fun s => { s with pre := s.pre.apply, mid := s.mid.apply, post := s.post.apply }).modifyRun
        fun r => { r.rebuildActive with activityDirty := false }).records = lab.records :=
      records_modifyRun _ fun r => records_rebuildActive r
    rw [ho.event, records_measure, hrec]
    refine ⟨some _, ?_, rfl⟩
    intro ev hev
    rw [Option.mem_some_iff] at hev
    subst hev
    refine ⟨rfl, ?_⟩
    rw [← hrec, frame_records]
  · exact ⟨none, by simp, by simp; rfl⟩

theorem obs_step (ho : h.Observes obs) (lab : Lab τ σ) : obs (lab.step h).1.session = obs (lab.beginStep h).session :=
  step_keeps (fun x => obs x.session = obs (lab.beginStep h).session)
    (fun hv hy => by rw [session_of_hookView hv]; exact hy)
    (fun ph hx => (runPhase_keeps _ (fun x => obs x.session) ho.hook ph).trans hx) rfl

theorem told_step (ho : h.Observes obs) (lab : Lab τ σ) :
    ∃ told : Option Event, (∀ ev ∈ told, ev.kind = .bodyListUpdated ∧ ev.frame = lab.records.frame) ∧
      obs (lab.step h).1.session = obs lab.session ++ told.toList.map (·, lab.records) := by
  obtain ⟨told, htold, hobs⟩ := told_beginStep ho lab
  exact ⟨told, htold, (obs_step ho lab).trans hobs⟩

theorem told_holdRun (ho : h.Observes obs) (hh : h.KeepsRecords) (lab : Lab τ σ) :
    ∃ ev ev' : Event, ev.kind = .paused ∧ ev'.kind = .resumed ∧ ev.frame = lab.records.frame ∧
      ev'.frame = lab.records.frame ∧
      obs (lab.holdRun h).1.session =
        obs lab.session ++ (ev, lab.records.flush) :: if (lab.holdRun h).2 then [(ev', lab.records.flush)] else [] := by
  have hflush := run_frame_flush lab
  have hsession : lab.flush.session = lab.session := session_of_hookView (hookView_flush lab)
  -- what the observer of the pause leaves: the same records, so the same frame
  have hpaused : ∀ ev, (h.event ev lab.flush).run.frame = lab.records.frame := by
    intro ev
    rw [← frame_records, hh.2, records_flush, Records.frame_flush]
  set ev : Event := { kind := .paused, frame := lab.flush.run.frame, time := lab.flush.run.time } with hev
  refine ⟨ev, { kind := .resumed, frame := (h.event ev lab.flush).run.frame, time := (h.event ev lab.flush).run.time },
    rfl, rfl, hflush, hpaused ev, ?_⟩
  unfold holdRun
  dsimp only
  split
  · simp [hev, ho.event, hsession, records_flush]
  · simp [hev, ho.event, hsession, records_flush, hh.2]

/-! ## The loop -/

theorem loop_trail (ho : h.Observes obs) (hh : h.KeepsRecords) :
    ∀ (fuel : Nat) (lab : Lab τ σ), ∃ m, obs (loop h fuel lab).1.session = obs lab.session ++ m ∧
      Trail lab.records m (loop h fuel lab).1.records
  | 0, lab => ⟨[], by simp [loop], .stop _⟩
  | fuel + 1, lab => by
    unfold loop
    split
    · exact ⟨[], by simp, .stop _⟩
    split
    · -- a hold publishes, then tells of the pause, and goes on or ends
      obtain ⟨ev, ev', hk, hk', hf, hf', hobs⟩ := told_holdRun ho hh lab
      have hrec := lab.records_holdRun hh
      split <;> rename_i lab' heq <;> rw [heq] at hobs hrec <;> dsimp only at hobs
      · obtain ⟨m, hm, ht⟩ := loop_trail ho hh fuel lab'
        rw [hrec] at ht
        refine ⟨_, ?_, .resumed hk hk' hf hf' ht⟩
        rw [hm, hobs]
        simp
      · rw [hrec]
        exact ⟨_, hobs, .held hk hf⟩
    · -- a step announces at most a changed body list, then fails or completes
      obtain ⟨told, htold, hobs⟩ := told_step ho lab
      have hann : ∀ {R : Records} {m : List (Event × Records)}, Trail lab.records m R →
          Trail lab.records (told.toList.map (·, lab.records) ++ m) R := by
        intro R m ht
        cases told with
        | none => exact ht
        | some ev =>
          obtain ⟨hk, hf⟩ := htold ev rfl
          exact .announce hk hf ht
      rcases lab.step_cases hh with ⟨hfail, hrec⟩ | ⟨mid, hmid, hstep⟩
      · split
        · rename_i lab' err heq
          rw [heq] at hobs hrec
          dsimp only at hobs hrec ⊢
          rw [hrec]
          exact ⟨_, by rw [List.append_nil]; exact hobs, hann (.stop _)⟩
        · rename_i lab' heq
          rw [heq] at hfail
          simp at hfail
      · rw [hstep] at hobs ⊢
        dsimp only
        have hR : ((mid.completeStep h).measure (·.observeStep 0)).records = lab.records ∨
            ((mid.completeStep h).measure (·.observeStep 0)).records = lab.records.advanceFrame ∨
            ((mid.completeStep h).measure (·.observeStep 0)).records = lab.records.advanceFrame.flush := by
          rw [records_measure, ← hmid]
          rcases mid.records_completeStep h with hc | hc
          · exact .inr (.inr hc)
          · exact .inr (.inl hc)
        split
        · exact ⟨_, by rw [List.append_nil]; exact hobs, hann (.step hR (.stop _))⟩
        · obtain ⟨m, hm, ht⟩ := loop_trail ho hh fuel ((mid.completeStep h).measure (·.observeStep 0))
          refine ⟨_, ?_, hann (.step hR ht)⟩
          rw [hm, ← List.append_assoc, ← hobs]
          rfl

/-! ## A whole run -/

theorem told_teardown (ho : h.Observes obs) (lab : Lab τ σ) (finish : FinishInfo) :
    ∃ ev : Event, ev.kind = .finished ∧ ev.frame = lab.records.frame ∧ ev.finish.frame = lab.records.frame ∧
      obs (lab.teardown h finish).session = obs lab.session ++ [(ev, lab.records.flush.finish)] ∧
      ((∀ e (l : Lab τ σ), (h.event e l).sim.lastFinish = l.sim.lastFinish) →
        (lab.teardown h finish).sim.lastFinish = ev.finish) := by
  have hflush := run_frame_flush lab
  rw [teardown_eq]
  refine ⟨{ kind := .finished, frame := lab.flush.run.frame, time := lab.flush.run.time,
            finish := { finish with frame := lab.flush.run.frame, time := lab.flush.run.time } },
    rfl, hflush, hflush, ?_, fun hfin => ?_⟩
  · rw [ho.event, session_closeRun, session_of_hookView (hookView_flush lab), records_closeRun, records_flush]
  · rw [hfin, lastFinish_closeRun]

theorem obs_start_of_failure {fuel : Nat} {reset : Bool} (lab : Lab τ σ)
    (hs : (lab.start h fuel reset).2.isSome) : obs (lab.start h fuel reset).1.session = obs lab.session := by
  unfold start at hs ⊢
  by_cases hrun : lab.sim.run.isSome = true
  · rw [if_pos hrun]
  rw [if_neg hrun] at hs ⊢
  dsimp only at hs ⊢
  rcases hsetup : lab.setup reset with ⟨lab₁, _ | f⟩
  · rw [hsetup] at hs
    simp at hs
  · have hv := hookView_setup lab reset
    rw [hsetup] at hv
    exact congrArg obs (session_of_hookView hv)

theorem told_run (ho : h.Observes obs) (hh : h.KeepsRecords) (fuel : Nat) {L : Lab τ σ} {R₀ : Records}
    {before : List (Event × Records)} (hr : L.records = R₀) (hb : obs L.session = before) :
    let out := loop h fuel (h.event { kind := .started, frame := L.run.frame, time := L.run.time } L)
    ∃ told fin, obs (out.1.teardown h out.2).session = before ++ told ∧
      RunTrail R₀ told (out.1.teardown h out.2).records fin ∧
      ((∀ e (l : Lab τ σ), (h.event e l).sim.lastFinish = l.sim.lastFinish) →
        (out.1.teardown h out.2).sim.lastFinish = fin) := by
  set E : Event := { kind := .started, frame := L.run.frame, time := L.run.time } with hE
  dsimp only
  obtain ⟨m, hm, ht⟩ := loop_trail ho hh fuel (h.event E L)
  rw [hh.2, hr] at ht
  rw [ho.event, hb, hr] at hm
  generalize loop h fuel (h.event E L) = out at hm ht ⊢
  obtain ⟨L₂, fin⟩ := out
  obtain ⟨ev', hk', hf', hfin, hobs', hlast⟩ := told_teardown ho L₂ fin
  refine ⟨(E, R₀) :: m ++ [(ev', L₂.records.flush.finish)], ev'.finish, ?_, ?_, hlast⟩
  · rw [hobs', hm]
    simp
  · rw [records_teardown _ hh]
    exact .run rfl (by rw [hE, ← hr, frame_records]) ht hk' hf' hfin

theorem start_trail (ho : h.Observes obs) (hh : h.KeepsRecords) {fuel : Nat} {reset : Bool} (lab : Lab τ σ)
    (hs : (lab.start h fuel reset).2 = none) :
    ∃ told fin, obs (lab.start h fuel reset).1.session = obs lab.session ++ told ∧
      RunTrail (lab.setup reset).1.records told (lab.start h fuel reset).1.records fin ∧
      ((∀ e (l : Lab τ σ), (h.event e l).sim.lastFinish = l.sim.lastFinish) →
        (lab.start h fuel reset).1.sim.lastFinish = fin) := by
  have hv := hookView_setup lab reset
  unfold start at hs ⊢
  by_cases hrun : lab.sim.run.isSome = true
  · rw [if_pos hrun] at hs
    simp at hs
  rw [if_neg hrun] at hs ⊢
  dsimp only at hs ⊢
  rcases hsetup : lab.setup reset with ⟨lab₁, _ | f⟩
  · rw [hsetup] at hv
    dsimp only
    -- the run is running in the setup's lab, traced and maybe given its span
    refine told_run ho hh fuel ?_ ?_
    · rw [records_setState, records_trace]
      split
      · exact records_modifyRun _ fun _ => rfl
      · rfl
    · rw [← session_of_hookView hv]
      simp only [setState, trace]
      split <;> rfl
  · simp [hsetup] at hs

end Lab

end Multibody.Sim
