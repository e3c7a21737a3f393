import Multibody.Proofs.Hooks.Frame
import Multibody.Proofs.Schedule.Pauses

/-!
# Which hooks a step calls

Hooks and observers only queue changes (`Handlers.Queues`), so a step calls
exactly the hooks active at its boundary, phase by phase, in registration
order, until one breaks down (`step_ends`, `entries_step`), seen through a
call log (`Handlers.Logs`).  The end of a run drops every hook
(`teardown_hooks`), and handles stay distinct over whole runs
(`IssuedFrom.start`).
-/

namespace Multibody.Sim

variable {τ σ : Type}

namespace Handlers

/-- A driver that changes the registries only by queueing changes: its hooks
and its observers keep the active hooks of every phase. -/
structure Queues (h : Handlers τ σ) : Prop where
  hook : ∀ id task (lab : Lab τ σ) p, ((h.hook id task lab).1.hooksOf p).entries = (lab.hooksOf p).entries
  event : ∀ ev (lab : Lab τ σ) p, ((h.event ev lab).hooksOf p).entries = (lab.hooksOf p).entries

/-- A driver whose hooks write their handle to a call log kept in its state,
and whose observers leave the log alone. -/
structure Logs (h : Handlers τ σ) (log : σ → List Nat) : Prop where
  hook : ∀ id task (lab : Lab τ σ), log (h.hook id task lab).1.session = log lab.session ++ [id]
  event : ∀ ev (lab : Lab τ σ), log (h.event ev lab).session = log lab.session

end Handlers

namespace Lab

/-- The handles in the registries are distinct and within the counter, and
the counter is at least `n`. -/
def IssuedFrom (n : Nat) (lab : Lab τ σ) : Prop := lab.HandlesIssued ∧ n ≤ lab.sim.nextHandle

theorem IssuedFrom.of_hookView {n : Nat} {lab₁ lab₂ : Lab τ σ} (h : lab₁.hookView = lab₂.hookView)
    (hi : lab₂.IssuedFrom n) : lab₁.IssuedFrom n :=
  ⟨hi.1.of_hookView h, (nextHandle_of_hookView h) ▸ hi.2⟩

end Lab

namespace Handlers

/-- A driver whose hooks and observers keep the handles distinct and within
the counter, and never lower the counter: one that registers through
`Lab.addHook` and removes through `Lab.removeHook`. -/
structure KeepsHandles (h : Handlers τ σ) : Prop where
  hook : ∀ n id task (lab : Lab τ σ), lab.IssuedFrom n → (h.hook id task lab).1.IssuedFrom n
  event : ∀ n ev (lab : Lab τ σ), lab.IssuedFrom n → (h.event ev lab).IssuedFrom n

end Handlers

namespace Lab

/-! ## Registration and removal queue changes only -/

theorem IssuedFrom.addHook {n : Nat} {lab : Lab τ σ} (hi : lab.IssuedFrom n) (p : Phase) (t : τ) :
    (lab.addHook p t).1.IssuedFrom n :=
  ⟨hi.1.addHook p t, by rw [nextHandle_addHook]; exact Nat.le_succ_of_le hi.2⟩

theorem IssuedFrom.removeHook {n : Nat} {lab : Lab τ σ} (hi : lab.IssuedFrom n) (p : Phase) (id : Nat) :
    (lab.removeHook p id).IssuedFrom n :=
  ⟨hi.1.removeHook p id, by rw [nextHandle_removeHook]; exact hi.2⟩

/-! ## A pass over the hooks of a phase -/

/-- How a pass over the hooks `es` ends, seen through the call log: it calls
them all and answers nothing, or it calls them up to the first that breaks
down and answers a message naming it. -/
def PassEnds (es : List (Nat × τ)) (calls : List Nat) (answer : Option String) : Prop :=
  (answer = none ∧ calls = es.map Prod.fst) ∨
    ∃ id msg, calls <+: es.map Prod.fst ∧ calls.getLast? = some id ∧
      answer = some ("hook " ++ toString id ++ " panicked: " ++ msg)

variable {h : Handlers τ σ}

theorem IssuedFrom.runEntries {n : Nat} (hk : h.KeepsHandles) :
    ∀ (es : List (Nat × τ)) {lab : Lab τ σ}, lab.IssuedFrom n → (Lab.runEntries h es lab).1.IssuedFrom n :=
  fun es _ hi => runEntries_preserves _ (hk.hook n) es _ hi

theorem runEntries_ends {log : σ → List Nat} (hl : h.Logs log) :
    ∀ (es : List (Nat × τ)) (lab : Lab τ σ), ∃ calls,
      log (runEntries h es lab).1.session = log lab.session ++ calls ∧ PassEnds es calls (runEntries h es lab).2
  | [], lab => ⟨[], by simp [runEntries], Or.inl ⟨rfl, rfl⟩⟩
  | (id, task) :: rest, lab => by
    have hlog := hl.hook id task lab
    simp only [runEntries]
    generalize h.hook id task lab = x at hlog
    obtain ⟨l, a⟩ := x
    cases a with
    | some m =>
      -- the hook broke down: the pass ends with it
      refine ⟨[id], hlog, Or.inr ⟨id, m, ?_, rfl, rfl⟩⟩
      simp
    | none =>
      obtain ⟨calls, hc, hend⟩ := runEntries_ends hl rest l
      refine ⟨id :: calls, by rw [hc, hlog, List.append_assoc, List.singleton_append], ?_⟩
      rcases hend with ⟨ha, rfl⟩ | ⟨id', msg, hpre, hlast, ha⟩
      · exact Or.inl ⟨ha, rfl⟩
      · refine Or.inr ⟨id', msg, List.cons_prefix_cons.2 ⟨rfl, hpre⟩, ?_, ha⟩
        rw [List.getLast?_cons, hlast]
        rfl

/-- How the pass of a phase ends, as a step answers it: all hooks `es`
called and nothing answered, or the hooks up to the first that broke down
called and the step failed with a message naming it. -/
def PhaseEnds (es : List (Nat × τ)) (calls : List Nat) (answer : Option Failure) : Prop :=
  (answer = none ∧ calls = es.map Prod.fst) ∨
    ∃ r id msg, calls <+: es.map Prod.fst ∧ calls.getLast? = some id ∧
      answer = some (stepError r .hookFailed (some ("hook " ++ toString id ++ " panicked: " ++ msg)))

theorem entries_runPhase (hq : h.Queues) (ph : Phase) (lab : Lab τ σ) (p : Phase) :
    ((lab.runPhase h ph).1.hooksOf p).entries = (lab.hooksOf p).entries :=
  runPhase_keeps lab (fun l => (l.hooksOf p).entries) (fun id task l => hq.hook id task l p) ph

theorem IssuedFrom.runPhase {n : Nat} (hk : h.KeepsHandles) (ph : Phase) {lab : Lab τ σ} (hi : lab.IssuedFrom n) :
    (lab.runPhase h ph).1.IssuedFrom n :=
  runPhase_preserves lab _ (hk.hook n) ph hi

theorem runPhase_ends {log : σ → List Nat} (hl : h.Logs log) (ph : Phase) (lab : Lab τ σ) :
    ∃ calls, log (lab.runPhase h ph).1.session = log lab.session ++ calls ∧
      PhaseEnds (lab.hooksOf ph).entries.toList calls (lab.runPhase h ph).2 := by
  obtain ⟨calls, hc, hend⟩ := runEntries_ends hl (lab.hooksOf ph).entries.toList lab
  unfold runPhase runHooks
  refine ⟨calls, ?_, ?_⟩
  · split <;> rename_i heq <;> rw [heq] at hc <;> exact hc
  · split <;> rename_i l e heq <;> rw [heq] at hend
    · obtain ⟨ha, -⟩ | ⟨id, msg, hpre, hlast, ha⟩ := hend
      · cases ha
      · cases ha
        exact Or.inr ⟨l.run, id, msg, hpre, hlast, rfl⟩
    · obtain ⟨-, hcalls⟩ | ⟨id, msg, -, -, ha⟩ := hend
      · exact Or.inl ⟨rfl, hcalls⟩
      · cases ha

theorem PhaseEnds.calls_of_none {es : List (Nat × τ)} {calls : List Nat} (he : PhaseEnds es calls none) :
    calls = es.map Prod.fst := by
  obtain ⟨-, hc⟩ | ⟨r, id, msg, -, -, ha⟩ := he
  · exact hc
  · cases ha

theorem PhaseEnds.of_some {es : List (Nat × τ)} {calls : List Nat} {f : Failure} (he : PhaseEnds es calls (some f)) :
    ∃ r id msg, calls <+: es.map Prod.fst ∧ calls.getLast? = some id ∧
      f = stepError r .hookFailed (some ("hook " ++ toString id ++ " panicked: " ++ msg)) := by
  obtain ⟨hn, -⟩ | ⟨r, id, msg, hpre, hlast, ha⟩ := he
  · cases hn
  · exact ⟨r, id, msg, hpre, hlast, Option.some.inj ha⟩

/-! ## The boundary of a step -/

theorem entries_beginStep (hq : h.Queues) (lab : Lab τ σ) (p : Phase) :
    ((lab.beginStep h).hooksOf p).entries.toList = (lab.hooksOf p).view := by
  have happly : ((lab.modifySim fun s => { s with pre := s.pre.apply, mid := s.mid.apply, post := s.post.apply }).hooksOf
      p) = (lab.hooksOf p).apply := by
    cases p <;> rfl
  unfold beginStep
  dsimp only
  split
  · rw [hq.event]
    change ((lab.modifySim fun s => { s with pre := s.pre.apply, mid := s.mid.apply, post := s.post.apply }).hooksOf
      p).entries.toList = _
    rw [happly]
    rfl
  · rw [happly]
    rfl

theorem log_beginStep {log : σ → List Nat} (hl : h.Logs log) (lab : Lab τ σ) :
    log (lab.beginStep h).session = log lab.session := by
  unfold beginStep
  dsimp only
  split
  · rw [hl.event]
    rfl
  · rfl

theorem IssuedFrom.beginStep {n : Nat} (hk : h.KeepsHandles) {lab : Lab τ σ} (hi : lab.IssuedFrom n) :
    (lab.beginStep h).IssuedFrom n := by
  -- the queued changes take effect: the handles left are a sublist of those there were
  let lab₁ := lab.modifySim fun s => { s with pre := s.pre.apply, mid := s.mid.apply, post := s.post.apply }
  have hsub : lab₁.handles.Sublist lab.handles := by
    simp only [handles]
    exact (((lab.hooksOf .pre).handles_apply ▸ (lab.hooksOf .pre).map_fst_view_sublist).append
      ((lab.hooksOf .mid).handles_apply ▸ (lab.hooksOf .mid).map_fst_view_sublist)).append
      ((lab.hooksOf .post).handles_apply ▸ (lab.hooksOf .post).map_fst_view_sublist)
  have h₁ : lab₁.IssuedFrom n :=
    ⟨⟨hsub.nodup hi.1.nodup, fun id hid => hi.1.le id (hsub.subset hid)⟩, hi.2⟩
  unfold Lab.beginStep
  dsimp only
  split
  · exact hk.event n _ _ (IssuedFrom.of_hookView (show _ = lab₁.hookView from rfl) h₁)
  · exact h₁

/-! ## A step -/

/-- How a step ends, seen through the call log, for the handles `pre`, `mid`
and `post` of the views at its boundary: every hook called, phase after
phase; or the calls up to a hook that broke down, which fails the step with
a message naming it; or the pre and mid hooks called and the engine failed. -/
inductive StepEnds (pre mid post : List Nat) : List Nat → Option Failure → Prop
  | done : StepEnds pre mid post (pre ++ mid ++ post) none
  | hookFailed {calls : List Nat} {id : Nat} (r : Run) (msg : String) (hpre : calls <+: pre ++ mid ++ post)
      (hlast : calls.getLast? = some id) :
      StepEnds pre mid post calls (some (stepError r .hookFailed (some ("hook " ++ toString id ++ " panicked: " ++ msg))))
  | engineFailed (r : Run) (cause : Option String) :
      StepEnds pre mid post (pre ++ mid) (some (stepError r .stepFailed cause))

theorem advance_answer (lab : Lab τ σ) :
    lab.advance.2 = none ∨ ∃ r cause, lab.advance.2 = some (stepError r .stepFailed cause) := by
  unfold advance
  split
  · exact Or.inr ⟨_, _, rfl⟩
  · dsimp only
    split
    · exact Or.inr ⟨_, _, rfl⟩
    · dsimp only
      split
      · exact Or.inl rfl
      · exact Or.inr ⟨_, _, rfl⟩

section Step

variable {log : σ → List Nat} {x l : Lab τ σ} {ph : Phase} {a : Option Failure}

theorem runPhase_ends_of_eq (hl : h.Logs log) (heq : x.runPhase h ph = (l, a)) :
    ∃ calls, log l.session = log x.session ++ calls ∧ PhaseEnds (x.hooksOf ph).entries.toList calls a := by
  have := runPhase_ends hl ph x
  rwa [heq] at this

theorem entries_of_runPhase_eq (hq : h.Queues) (heq : x.runPhase h ph = (l, a)) (p : Phase) :
    (l.hooksOf p).entries = (x.hooksOf p).entries := by
  have := entries_runPhase hq ph x p
  rwa [heq] at this

theorem hookView_of_advance_eq (heq : x.advance = (l, a)) : l.hookView = x.hookView := by
  have := hookView_advance x
  rwa [heq] at this

end Step

theorem step_ends {log : σ → List Nat} (hq : h.Queues) (hl : h.Logs log) (lab : Lab τ σ) :
    ∃ calls, log (lab.step h).1.session = log lab.session ++ calls ∧
      StepEnds ((lab.hooksOf .pre).view.map Prod.fst) ((lab.hooksOf .mid).view.map Prod.fst)
        ((lab.hooksOf .post).view.map Prod.fst) calls (lab.step h).2 := by
  -- the stages before the pre hooks change nothing the hooks see but the boundary
  have hA : ∀ pert : Perturbations,
      (if pert.isEmpty then (lab.beginStep h).clearForces
        else (((lab.beginStep h).clearForces).applyPerturbations pert).holdForcedPoses pert).runAllControllers.hookView =
        (lab.beginStep h).hookView := by
    intro pert
    rw [hookView_runAllControllers]
    split
    · exact hookView_clearForces _
    · rw [hookView_holdForcedPoses, hookView_applyPerturbations, hookView_clearForces]
  -- so every pass finds the views of the boundary active, and the log as it was
  have hE₀ : ∀ pert : Perturbations, ∀ p, ((if pert.isEmpty then (lab.beginStep h).clearForces
      else (((lab.beginStep h).clearForces).applyPerturbations pert).holdForcedPoses pert).runAllControllers.hooksOf
        p).entries.toList = (lab.hooksOf p).view := fun pert p => by
    rw [hooksOf_of_hookView (hA pert), entries_beginStep hq]
  have hL₀ : ∀ pert : Perturbations, log (if pert.isEmpty then (lab.beginStep h).clearForces
      else (((lab.beginStep h).clearForces).applyPerturbations pert).holdForcedPoses pert).runAllControllers.session =
        log lab.session := fun pert => by
    rw [session_of_hookView (hA pert), log_beginStep hl]
  set pre := (lab.hooksOf .pre).view.map Prod.fst
  set mid := (lab.hooksOf .mid).view.map Prod.fst
  set post := (lab.hooksOf .post).view.map Prod.fst
  unfold step
  dsimp only
  -- one case split per stage that can fail: pre hooks, mid hooks, the engine, post hooks
  split
  · rename_i l₁ f heq₁
    obtain ⟨c₁, hc₁, hend₁⟩ := runPhase_ends_of_eq hl heq₁
    rw [hE₀] at hend₁
    rw [hL₀] at hc₁
    obtain ⟨r, id, msg, hpre, hlast, rfl⟩ := hend₁.of_some
    exact ⟨c₁, hc₁, .hookFailed r msg (hpre.trans ((List.prefix_append _ _).trans (List.prefix_append _ _))) hlast⟩
  rename_i l₁ heq₁
  obtain ⟨c₁, hc₁, hend₁⟩ := runPhase_ends_of_eq hl heq₁
  rw [hE₀] at hend₁
  rw [hL₀] at hc₁
  obtain rfl := hend₁.calls_of_none
  have hE₁ : ∀ p, (l₁.hooksOf p).entries.toList = (lab.hooksOf p).view := fun p => by
    rw [entries_of_runPhase_eq hq heq₁, hE₀]
  split
  · rename_i l₂ f heq₂
    obtain ⟨c₂, hc₂, hend₂⟩ := runPhase_ends_of_eq hl heq₂
    rw [hE₁] at hend₂
    obtain ⟨r, id, msg, hpre, hlast, rfl⟩ := hend₂.of_some
    refine ⟨pre ++ c₂, by rw [hc₂, hc₁, List.append_assoc], .hookFailed r msg ?_ ?_⟩
    · exact ((List.prefix_append_right_inj pre).2 hpre).trans (List.prefix_append _ _)
    · rw [List.getLast?_append, hlast]
      rfl
  rename_i l₂ heq₂
  obtain ⟨c₂, hc₂, hend₂⟩ := runPhase_ends_of_eq hl heq₂
  rw [hE₁] at hend₂
  obtain rfl := hend₂.calls_of_none
  have hE₂ : ∀ p, (l₂.hooksOf p).entries.toList = (lab.hooksOf p).view := fun p => by
    rw [entries_of_runPhase_eq hq heq₂, hE₁]
  have hL₂ : log l₂.session = log lab.session ++ (pre ++ mid) := by rw [hc₂, hc₁, List.append_assoc]
  -- the engine, after contact detection, changes nothing the hooks see
  have hD : (if l₂.run.detecting then l₂.detectCollisions else l₂).hookView = l₂.hookView := by
    split
    · exact hookView_detectCollisions _
    · rfl
  split
  · rename_i l₃ f heq₃
    have hf := advance_answer (if l₂.run.detecting then l₂.detectCollisions else l₂)
    rw [heq₃] at hf
    obtain hf | ⟨r, cause, hf⟩ := hf
    · cases hf
    refine ⟨pre ++ mid, ?_, ?_⟩
    · rw [session_of_hookView ((hookView_of_advance_eq heq₃).trans hD), hL₂]
    · cases hf
      exact .engineFailed r cause
  rename_i l₃ heq₃
  have hV₃ : l₃.hookView = l₂.hookView := (hookView_of_advance_eq heq₃).trans hD
  -- the forced poses held again change nothing the hooks see
  have hH : ∀ pert : Perturbations, (if pert.isEmpty then l₃ else l₃.holdForcedPoses pert).hookView = l₂.hookView := by
    intro pert
    split
    · exact hV₃
    · rw [hookView_holdForcedPoses, hV₃]
  split
  · rename_i l₄ f heq₄
    obtain ⟨c₄, hc₄, hend₄⟩ := runPhase_ends_of_eq hl heq₄
    rw [hooksOf_of_hookView (hH _), hE₂] at hend₄
    rw [session_of_hookView (hH _), hL₂] at hc₄
    obtain ⟨r, id, msg, hpre, hlast, rfl⟩ := hend₄.of_some
    refine ⟨pre ++ mid ++ c₄, by rw [hc₄, List.append_assoc], .hookFailed r msg ?_ ?_⟩
    · exact (List.prefix_append_right_inj (pre ++ mid)).2 hpre
    · rw [List.getLast?_append, hlast]
      rfl
  · rename_i l₄ heq₄
    obtain ⟨c₄, hc₄, hend₄⟩ := runPhase_ends_of_eq hl heq₄
    rw [hooksOf_of_hookView (hH _), hE₂] at hend₄
    rw [session_of_hookView (hH _), hL₂] at hc₄
    obtain rfl := hend₄.calls_of_none
    refine ⟨pre ++ mid ++ post, ?_, .done⟩
    rw [session_of_hookView (hookView_completeStep _ h), hc₄, List.append_assoc]

theorem step_keeps (P : Lab τ σ → Prop) (hv : ∀ {x y : Lab τ σ}, x.hookView = y.hookView → P y → P x)
    (hp : ∀ {x : Lab τ σ} (ph : Phase), P x → P (x.runPhase h ph).1) {lab : Lab τ σ} (h₀ : P (lab.beginStep h)) :
    P (lab.step h).1 := by
  have hA : ∀ pert : Perturbations, P (if pert.isEmpty then (lab.beginStep h).clearForces
      else (((lab.beginStep h).clearForces).applyPerturbations pert).holdForcedPoses pert).runAllControllers := by
    intro pert
    refine hv (hookView_runAllControllers _) ?_
    split
    · exact hv (hookView_clearForces _) h₀
    · exact hv ((hookView_holdForcedPoses _ _).trans ((hookView_applyPerturbations _ _).trans
        (hookView_clearForces _))) h₀
  -- the result of a pass that went through or failed
  have hP : ∀ {x l : Lab τ σ} {ph : Phase} {a : Option Failure}, x.runPhase h ph = (l, a) → P x → P l := by
    intro x l ph a heq hx
    have := hp ph hx
    rwa [heq] at this
  unfold step
  dsimp only
  split
  · rename_i l₁ f heq₁
    exact hP heq₁ (hA _)
  rename_i l₁ heq₁
  split
  · rename_i l₂ f heq₂
    exact hP heq₂ (hP heq₁ (hA _))
  rename_i l₂ heq₂
  have h₂ := hP heq₂ (hP heq₁ (hA _))
  have hD : P (if l₂.run.detecting then l₂.detectCollisions else l₂) := by
    split
    · exact hv (hookView_detectCollisions _) h₂
    · exact h₂
  split
  · rename_i l₃ f heq₃
    exact hv (hookView_of_advance_eq heq₃) hD
  rename_i l₃ heq₃
  have h₃ : P l₃ := hv (hookView_of_advance_eq heq₃) hD
  have hH : ∀ pert : Perturbations, P (if pert.isEmpty then l₃ else l₃.holdForcedPoses pert) := by
    intro pert
    split
    · exact h₃
    · exact hv (hookView_holdForcedPoses _ _) h₃
  split
  · rename_i l₄ f heq₄
    exact hP heq₄ (hH _)
  · rename_i l₄ heq₄
    exact hv (hookView_completeStep _ h) (hP heq₄ (hH _))

theorem entries_step (hq : h.Queues) (lab : Lab τ σ) (p : Phase) :
    ((lab.step h).1.hooksOf p).entries.toList = (lab.hooksOf p).view :=
  step_keeps (fun x => ∀ p, (x.hooksOf p).entries.toList = (lab.hooksOf p).view)
    (fun hxy hy p => by rw [hooksOf_of_hookView hxy, hy])
    (fun ph hx p => by rw [entries_runPhase hq, hx]) (entries_beginStep hq lab) p

theorem IssuedFrom.step {n : Nat} (hk : h.KeepsHandles) {lab : Lab τ σ} (hi : lab.IssuedFrom n) :
    (lab.step h).1.IssuedFrom n :=
  step_keeps (IssuedFrom n) (fun hxy hy => hy.of_hookView hxy) (fun ph hx => hx.runPhase hk ph) (hi.beginStep hk)

/-! ## Whole runs -/

theorem IssuedFrom.holdRun {n : Nat} (hk : h.KeepsHandles) {lab : Lab τ σ} (hi : lab.IssuedFrom n) :
    (lab.holdRun h).1.IssuedFrom n := by
  have h₁ := hk.event n { kind := .paused, frame := lab.flush.run.frame, time := lab.flush.run.time } lab.flush
    (hi.of_hookView (hookView_flush lab))
  unfold Lab.holdRun
  dsimp only
  split
  · exact h₁
  · exact hk.event n _ _ h₁

theorem IssuedFrom.loop {n : Nat} (hk : h.KeepsHandles) :
    ∀ (fuel : Nat) {lab : Lab τ σ}, lab.IssuedFrom n → (Lab.loop h fuel lab).1.IssuedFrom n
  | 0, _, hi => hi
  | fuel + 1, lab, hi => by
    rw [Lab.loop]
    split
    · exact hi
    split
    · -- a hold, then the rest of the run
      have h₁ := hi.holdRun hk
      split <;> rename_i heq <;> rw [heq] at h₁
      · exact IssuedFrom.loop hk fuel h₁
      · exact h₁
    · -- a step, then the rest of the run unless it failed or reached the end
      have h₁ := hi.step hk
      split <;> rename_i l heq <;> rw [heq] at h₁
      · exact h₁
      · dsimp only
        have h₂ : (l.measure (·.observeStep 0)).IssuedFrom n := h₁.of_hookView (hookView_measure _ _)
        split
        · exact h₂
        · exact IssuedFrom.loop hk fuel h₂

theorem hooksOf_closeRun (lab : Lab τ σ) (r : Run) (finish : FinishInfo) (p : Phase) :
    (closeRun lab r finish).hooksOf p = {} := by
  unfold closeRun
  cases r.span <;> cases p <;> rfl

theorem nextHandle_closeRun (lab : Lab τ σ) (r : Run) (finish : FinishInfo) :
    (closeRun lab r finish).sim.nextHandle = lab.sim.nextHandle := by
  unfold closeRun
  cases r.span <;> rfl

theorem teardown_hooks (lab : Lab τ σ) (finish : FinishInfo) :
    ∃ (lab₀ : Lab τ σ) (ev : Event), (∀ p, lab₀.hooksOf p = {}) ∧ ev.kind = .finished ∧
      lab.teardown h finish = h.event ev lab₀ :=
  ⟨_, _, hooksOf_closeRun _ _ _, rfl, teardown_eq h lab finish⟩

theorem IssuedFrom.of_empty {n : Nat} {lab : Lab τ σ} (h₀ : ∀ p, lab.hooksOf p = {}) (hn : n ≤ lab.sim.nextHandle) :
    lab.IssuedFrom n := by
  have hnil : lab.handles = [] := by
    simp [handles, h₀]
  refine ⟨⟨?_, fun id hid => ?_⟩, hn⟩
  · rw [hnil]
    exact List.nodup_nil
  · rw [hnil] at hid
    cases hid

theorem IssuedFrom.teardown {n : Nat} (hk : h.KeepsHandles) {lab : Lab τ σ} (hi : lab.IssuedFrom n)
    (finish : FinishInfo) : (lab.teardown h finish).IssuedFrom n := by
  rw [teardown_eq]
  refine hk.event n _ _ (IssuedFrom.of_empty (hooksOf_closeRun _ _ _) ?_)
  rw [nextHandle_closeRun, nextHandle_of_hookView (hookView_flush lab)]
  exact hi.2

theorem IssuedFrom.start {n : Nat} (hk : h.KeepsHandles) (fuel : Nat) (reset : Bool) {lab : Lab τ σ}
    (hi : lab.IssuedFrom n) : (lab.start h fuel reset).1.IssuedFrom n := by
  have hs := hi.of_hookView (hookView_setup lab reset)
  unfold Lab.start
  split
  · exact hi
  dsimp only
  split
  · rename_i l f heq
    rw [heq] at hs
    exact hs.of_hookView (hookView_trace _ _)
  · rename_i l heq
    rw [heq] at hs
    -- the run's span and state are set, the start is announced, then the run goes to its end
    exact (IssuedFrom.loop hk fuel
      (hk.event n _ _ (hs.of_hookView (show _ = l.hookView by split <;> rfl)))).teardown hk _

/-! ## The contract of the hooks -/

/-- What the hooks of a driver that logs their calls can rely on, over the
registries, the steps and whole runs. -/
structure HookContract (h : Handlers τ σ) (log : σ → List Nat) : Prop where
  /-- A registration appends a hook with a new handle to the view of its
  phase, and leaves the other phases alone. -/
  register : ∀ (lab : Lab τ σ) (p : Phase) (t : τ), lab.HandlesIssued →
    (lab.addHook p t).2 ∉ lab.handles ∧
      ((lab.addHook p t).1.hooksOf p).view = (lab.hooksOf p).view ++ [((lab.addHook p t).2, t)] ∧
      (∀ q, q ≠ p → (lab.addHook p t).1.hooksOf q = lab.hooksOf q) ∧
      (lab.addHook p t).1.HandlesIssued
  /-- A removal drops the hook with the handle from the view of its phase
  and nothing else; removing a handle the view does not hold, such as one of
  another phase, changes nothing. -/
  remove : ∀ (lab : Lab τ σ) (p : Phase) (id : Nat), lab.HandlesIssued →
    ((lab.removeHook p id).hooksOf p).view = (lab.hooksOf p).view.filter (·.1 != id) ∧
      (id ∉ (lab.hooksOf p).view.map Prod.fst → ((lab.removeHook p id).hooksOf p).view = (lab.hooksOf p).view) ∧
      (∀ q, q ≠ p → (lab.removeHook p id).hooksOf q = lab.hooksOf q ∧
        (id ∈ (lab.hooksOf q).handles → id ∉ (lab.hooksOf p).view.map Prod.fst))
  /-- A step calls the views of its boundary phase after phase, each hook
  once and in registration order, until one breaks down (failing the step
  with a message naming it) or the engine fails; after it the views of its
  boundary are active, whatever was queued during it. -/
  step : ∀ lab : Lab τ σ, lab.HandlesIssued →
    ((lab.hooksOf .pre).view.map Prod.fst ++ (lab.hooksOf .mid).view.map Prod.fst ++
      (lab.hooksOf .post).view.map Prod.fst).Nodup ∧
    (∃ calls, log (lab.step h).1.session = log lab.session ++ calls ∧
      StepEnds ((lab.hooksOf .pre).view.map Prod.fst) ((lab.hooksOf .mid).view.map Prod.fst)
        ((lab.hooksOf .post).view.map Prod.fst) calls (lab.step h).2) ∧
    ∀ p, ((lab.step h).1.hooksOf p).entries.toList = (lab.hooksOf p).view
  /-- A failed step ends the run abnormally with its failure. -/
  fail : ∀ (lab l : Lab τ σ) (f : Failure) (fuel : Nat), lab.run.stop = false →
    (lab.sim.state == .paused) = false → lab.step h = (l, some f) →
      loop h (fuel + 1) lab = (l, { abnormal := true, err := some f })
  /-- The end of a run drops every hook, active or queued: what the
  registries hold afterwards is what the observers of the end queued. -/
  finish : ∀ (lab : Lab τ σ) (finish : FinishInfo), ∃ (lab₀ : Lab τ σ) (ev : Event),
    (∀ p, lab₀.hooksOf p = {}) ∧ ev.kind = .finished ∧ lab.teardown h finish = h.event ev lab₀
  /-- Over a whole start, run and end, handles stay distinct and within the
  counter, and the counter never goes down. -/
  lifetime : ∀ (lab : Lab τ σ) (fuel : Nat) (reset : Bool) (n : Nat), lab.IssuedFrom n →
    (lab.start h fuel reset).1.IssuedFrom n

/-- Hooks run as registered: a driver whose hooks and observers only queue
changes, log their calls and keep the handles issued has the hook contract. -/
theorem hooks_run_as_registered {log : σ → List Nat} (hq : h.Queues) (hl : h.Logs log) (hk : h.KeepsHandles) :
    HookContract h log where
  register lab p t hi :=
    ⟨handle_addHook_not_mem hi p t, lab.view_addHook_self p t, fun _ hqp => lab.hooksOf_addHook_of_ne hqp t,
      hi.addHook p t⟩
  remove lab p id hi := by
    refine ⟨?_, fun hid => ?_, fun q hqp => ⟨lab.hooksOf_removeHook_of_ne hqp id, fun hmem => ?_⟩⟩
    · rw [hooksOf_removeHook_self]
      exact (lab.hooksOf p).view_remove id (hi.nodup_view p)
    · rw [hooksOf_removeHook_self]
      exact (lab.hooksOf p).view_remove_of_not_mem hid
    · exact hi.not_mem_view_of_ne (Ne.symm hqp) hmem
  step lab hi := ⟨hi.nodup_views, step_ends hq hl lab, entries_step hq lab⟩
  fail lab l f fuel hs hp hx := loop_of_failed h fuel hs hp hx
  finish lab finish := teardown_hooks lab finish
  lifetime lab fuel reset n hi := hi.start hk fuel reset

/-- A driver whose hooks only write their handle to its state. -/
def loggingHandlers : Handlers Unit (List Nat) where
  hook id _ lab := ({ lab with session := lab.session ++ [id] }, none)
  event _ lab := lab

theorem loggingHandlers_hooks_run_as_registered :
    loggingHandlers.Queues ∧ loggingHandlers.Logs id ∧ loggingHandlers.KeepsHandles ∧
      HookContract loggingHandlers id :=
  have hq : loggingHandlers.Queues := ⟨fun _ _ lab p => by cases p <;> rfl, fun _ _ _ => rfl⟩
  have hl : loggingHandlers.Logs id := ⟨fun _ _ _ => rfl, fun _ _ => rfl⟩
  have hk : loggingHandlers.KeepsHandles := ⟨fun _ _ _ _ hi => ⟨⟨hi.1.nodup, hi.1.le⟩, hi.2⟩, fun _ _ _ hi => hi⟩
  ⟨hq, hl, hk, hooks_run_as_registered hq hl hk⟩

end Lab

end Multibody.Sim
