import Multibody.Proofs.Body.Restore

/-!
# What one controller call does

`Lab.runControllers` writes frozen efforts back (`Lab.restoreFrozen`), then
calls each running slot.  A call goes on, finishes or fails (`CallOutcome`):
a failed call writes nothing, stops its slot, freezes the efforts and counts
a failure (`runSlot_of_failed`); the others write their efforts
(`runSlot_of_finished`, `runSlot_of_goesOn`); a stopped slot is not called
(`runSlot_of_stopped`).  Nothing else changes (`CallFrame`).
-/

namespace Multibody

/-- The efforts of a body's joints, in joint order. -/
def Assembly.efforts (a : Assembly) (b : BodyId) : Array Float := (a.body b).joints.map fun j => (a.link j).joint.u

/-- Sets the effort of one joint. -/
def Assembly.setEffort (a : Assembly) (p : LinkId × Float) : Assembly :=
  a.modifyLink p.1 fun l => { l with joint := { l.joint with u := p.2 } }

namespace Assembly

@[simp] theorem body_foldl_setEffort (ps : List (LinkId × Float)) (a : Assembly) (b : BodyId) :
    (ps.foldl setEffort a).body b = a.body b :=
  Sim.foldl_keeps (fun x : Assembly => x.body b) setEffort (fun _ _ => rfl) ps a

@[simp] theorem size_foldl_setEffort (ps : List (LinkId × Float)) (a : Assembly) :
    (ps.foldl setEffort a).links.size = a.links.size :=
  Sim.foldl_keeps (fun x : Assembly => x.links.size) setEffort (fun x p => size_modifyLink x p.1 _) ps a

theorem link_foldl_setEffort_of_not_mem (l : LinkId) :
    ∀ (ps : List (LinkId × Float)) (a : Assembly), l ∉ ps.map Prod.fst → (ps.foldl setEffort a).link l = a.link l
  | [], _, _ => rfl
  | p :: ps, a, hl => by
    simp only [List.map_cons, List.mem_cons, not_or] at hl
    rw [List.foldl_cons, link_foldl_setEffort_of_not_mem l ps _ hl.2]
    exact link_modifyLink_of_ne a _ (Ne.symm hl.1)

theorem effort_foldl_setEffort :
    ∀ (ps : List (LinkId × Float)) (a : Assembly), (ps.map Prod.fst).Nodup → (∀ p ∈ ps, p.1.idx < a.links.size) →
      ∀ p ∈ ps, ((ps.foldl setEffort a).link p.1).joint.u = p.2
  | [], _, _, _, _, hp => absurd hp List.not_mem_nil
  | q :: ps, a, hnd, hin, p, hp => by
    rw [List.map_cons, List.nodup_cons] at hnd
    rw [List.foldl_cons]
    rcases List.mem_cons.1 hp with rfl | hp
    · -- the first link set is not set again
      rw [link_foldl_setEffort_of_not_mem _ ps _ hnd.1, setEffort, link_modifyLink,
        if_pos ⟨rfl, hin p List.mem_cons_self⟩]
    · refine effort_foldl_setEffort ps _ hnd.2 (fun p' hp' => ?_) p hp
      rw [setEffort, size_modifyLink]
      exact hin p' (List.mem_cons_of_mem _ hp')

end Assembly

end Multibody

namespace Multibody.Sim

variable {τ σ : Type}

/-- What one call of a controller comes to. -/
inductive CallOutcome where
  | goesOn
  | finished
  | failed
  deriving DecidableEq

/-- The outcome of a controller's `control`: a breakdown, or a problem other
than having finished, is a failure. -/
def CallOutcome.of : Except String (Control.Controller × Option Failure) → CallOutcome
  | .error _ => .failed
  | .ok (_, none) => .goesOn
  | .ok (_, some f) => if f.has .controllerDone then .finished else .failed

/-- The controller after a call: the one `control` returned, or the one that
read its input when `control` broke down. -/
def callResult (c : Control.Controller) : Except String (Control.Controller × Option Failure) → Control.Controller
  | .error _ => c
  | .ok (c', _) => c'

namespace Lab

/-- The `k`-th simulation body of the run. -/
def simBody (lab : Lab τ σ) (k : Nat) : SimBody := lab.run.bodies.getD k default

/-- The `si`-th controller slot of the `k`-th simulation body. -/
def slotAt (lab : Lab τ σ) (k si : Nat) : ControllerSlot := (lab.simBody k).slots.getD si default

/-- The call of the controller of a slot, on the lab as it stands. -/
def callOf (lab : Lab τ σ) (env : Control.Env) (idx : Nat) : Except String (Control.Controller × Option Failure) :=
  ((lab.controllers.getD idx default).input lab.assembly).control env

/-- The controller of slot index `idx` after its call. -/
def called (lab : Lab τ σ) (env : Control.Env) (idx : Nat) : Control.Controller :=
  callResult ((lab.controllers.getD idx default).input lab.assembly) (lab.callOf env idx)

/-- The lab after the call of controller `idx`, before anything is
written. -/
def withCalled (lab : Lab τ σ) (env : Control.Env) (idx : Nat) : Lab τ σ :=
  { lab with controllers := lab.controllers.set! idx (lab.called env idx) }

/-- A body's frozen efforts written back to its joints, as its controllers
start. -/
def restoreFrozen (lab : Lab τ σ) (k : Nat) : Lab τ σ :=
  let sb := lab.simBody k
  if sb.isFrozen then lab.withAssembly (((lab.assembly.body sb.body).joints.zip sb.frozen).foldl Assembly.setEffort lab.assembly)
  else lab

variable (lab : Lab τ σ)

theorem runControllers_eq (k : Nat) :
    lab.runControllers k = (List.range (lab.simBody k).slots.size).foldl
      (runSlot ((lab.restoreFrozen k).controlEnv lab.run.cfg) k (lab.simBody k)) (lab.restoreFrozen k) := by
  unfold runControllers restoreFrozen simBody
  dsimp only
  split <;> rfl

theorem efforts_restoreFrozen (k : Nat) (hfz : (lab.simBody k).isFrozen = true)
    (hnd : (lab.assembly.body (lab.simBody k).body).joints.toList.Nodup)
    (hin : ∀ j ∈ (lab.assembly.body (lab.simBody k).body).joints, j.idx < lab.assembly.links.size)
    (hsize : (lab.simBody k).frozen.size = (lab.assembly.body (lab.simBody k).body).joints.size) :
    (lab.restoreFrozen k).assembly.efforts (lab.simBody k).body = (lab.simBody k).frozen := by
  unfold restoreFrozen
  simp only [hfz, if_true]
  set js := (lab.assembly.body (lab.simBody k).body).joints with hjs
  set fr := (lab.simBody k).frozen
  show Assembly.efforts ((js.zip fr).foldl Assembly.setEffort lab.assembly) (lab.simBody k).body = fr
  rw [← Array.foldl_toList]
  -- the pairs set are the joints, each with its held effort
  have hfst : ((js.zip fr).toList.map Prod.fst) = js.toList := by
    rw [Array.toList_zip, List.map_fst_zip]
    simp [hsize]
  have hset := Assembly.effort_foldl_setEffort (js.zip fr).toList lab.assembly (by rw [hfst]; exact hnd)
    (fun p hp => hin p.1 (by rw [← Array.mem_toList_iff, ← hfst]; exact List.mem_map_of_mem hp))
  unfold Assembly.efforts
  rw [Assembly.body_foldl_setEffort, ← hjs]
  apply Array.ext
  · simp [hsize]
  · intro i h₁ h₂
    have hi : i < js.size := by simpa using h₁
    have hmem : (js[i], fr[i]) ∈ (js.zip fr).toList := by
      rw [Array.mem_toList_iff, Array.mem_iff_getElem]
      exact ⟨i, by simp [hi, hsize], by simp⟩
    rw [Array.getElem_map]
    exact hset _ hmem

/-! ## Reading bodies and slots -/

theorem simBody_modifyBody (k j : Nat) (f : SimBody → SimBody) :
    (lab.modifyBody k f).simBody j = if j = k ∧ k < lab.run.bodies.size then f (lab.simBody j) else lab.simBody j := by
  unfold simBody modifyBody modifyRun modifySim run
  cases hr : lab.sim.run with
  | none => simp [hr]
  | some r =>
    simp only [hr, Option.map_some, Option.getD_some, Array.getD_eq_getD_getElem?, Array.getElem?_modify]
    by_cases hjk : j = k
    · subst hjk
      by_cases hlt : j < r.bodies.size <;> simp [hlt]
    · simp [hjk, Ne.symm hjk]

@[simp] theorem simBody_withAssembly (a : Assembly) (j : Nat) : (lab.withAssembly a).simBody j = lab.simBody j := rfl

@[simp] theorem simBody_measure (f : Observe.Meter → Observe.Meter) (j : Nat) :
    (lab.measure f).simBody j = lab.simBody j := rfl

@[simp] theorem simBody_setControllers (cs : Array Control.Controller) (j : Nat) :
    ({ lab with controllers := cs }).simBody j = lab.simBody j := rfl

@[simp] theorem size_bodies_modifyBody (k : Nat) (f : SimBody → SimBody) :
    (lab.modifyBody k f).run.bodies.size = lab.run.bodies.size := by
  unfold modifyBody modifyRun modifySim run
  cases hr : lab.sim.run <;> simp [hr]

theorem getD_modify_slots {slots : Array ControllerSlot} (si i : Nat) (g : ControllerSlot → ControllerSlot) :
    (slots.modify si g).getD i default = if i = si ∧ si < slots.size then g (slots.getD i default) else slots.getD i default := by
  simp only [Array.getD_eq_getD_getElem?, Array.getElem?_modify]
  by_cases hi : i = si
  · subst hi
    by_cases hlt : i < slots.size <;> simp [hlt]
  · simp [hi, Ne.symm hi]

/-! ## A call and what it leaves alone -/

/-- What a call of a slot's controller leaves alone: the run goes on, every
body keeps its activity, and every other slot is as it was. -/
structure CallFrame (k si : Nat) (lab lab' : Lab τ σ) : Prop where
  stop : lab'.run.stop = lab.run.stop
  size : lab'.run.bodies.size = lab.run.bodies.size
  active : ∀ j, (lab'.simBody j).active = (lab.simBody j).active
  others : ∀ j i, (j, i) ≠ (k, si) → lab'.slotAt j i = lab.slotAt j i

theorem CallFrame.refl (k si : Nat) : CallFrame k si lab lab := ⟨rfl, rfl, fun _ => rfl, fun _ _ _ => rfl⟩

theorem CallFrame.trans {k si : Nat} {l₁ l₂ l₃ : Lab τ σ} (h₁ : CallFrame k si l₁ l₂) (h₂ : CallFrame k si l₂ l₃) :
    CallFrame k si l₁ l₃ :=
  ⟨h₂.stop.trans h₁.stop, h₂.size.trans h₁.size, fun j => (h₂.active j).trans (h₁.active j),
    fun j i h => (h₂.others j i h).trans (h₁.others j i h)⟩

theorem callFrame_modifyBody (k si : Nat) {f : SimBody → SimBody} (hact : ∀ sb, (f sb).active = sb.active)
    (hslots : ∀ sb i, i ≠ si → (f sb).slots.getD i default = sb.slots.getD i default) :
    CallFrame k si lab (lab.modifyBody k f) := by
  refine ⟨?_, size_bodies_modifyBody _ _ _, fun j => ?_, fun j i hji => ?_⟩
  · unfold modifyBody modifyRun modifySim run
    cases hr : lab.sim.run <;> simp [hr]
  · rw [simBody_modifyBody]
    split <;> simp [hact]
  · unfold slotAt
    rw [simBody_modifyBody]
    split
    · rename_i h
      obtain ⟨rfl, -⟩ := h
      exact hslots _ i fun hi => hji (by rw [hi])
    · rfl

theorem callFrame_freeze (k si : Nat) : CallFrame k si lab (lab.freeze k) := by
  unfold freeze
  dsimp only
  split
  · exact CallFrame.refl _ k si
  · exact callFrame_modifyBody _ k si (fun _ => rfl) fun _ _ _ => rfl

theorem simBody_freeze (k j : Nat) :
    (lab.freeze k).simBody j =
      if j = k ∧ k < lab.run.bodies.size ∧ (lab.simBody k).isFrozen = false then
        { lab.simBody j with frozen := lab.assembly.efforts (lab.simBody j).body, isFrozen := true }
      else lab.simBody j := by
  unfold freeze
  dsimp only
  split
  · rename_i hfz
    have hfz' : (lab.simBody k).isFrozen = true := hfz
    simp [hfz']
  · rename_i hfz
    have hfz' : (lab.simBody k).isFrozen = false := Bool.eq_false_iff.mpr hfz
    rw [simBody_modifyBody]
    by_cases hjk : j = k
    · subst hjk
      by_cases hlt : j < lab.run.bodies.size
      · simp only [hlt, hfz', and_self, if_true]
        rfl
      · simp [hlt]
    · simp [hjk]

@[simp] theorem assembly_freeze (k : Nat) : (lab.freeze k).assembly = lab.assembly := by
  unfold freeze
  dsimp only
  split <;> rfl

@[simp] theorem meter_freeze (k : Nat) : (lab.freeze k).sim.meter = lab.sim.meter := by
  unfold freeze
  dsimp only
  split <;> rfl

theorem slotAt_freeze (k j i : Nat) : (lab.freeze k).slotAt j i = lab.slotAt j i := by
  unfold slotAt
  rw [simBody_freeze]
  split <;> rfl

theorem slotAt_modifySlot (k si : Nat) (g : ControllerSlot → ControllerSlot) (hk : k < lab.run.bodies.size)
    (hsi : si < (lab.simBody k).slots.size) :
    (lab.modifyBody k fun b => { b with slots := b.slots.modify si g }).slotAt k si = g (lab.slotAt k si) := by
  unfold slotAt
  rw [simBody_modifyBody, if_pos ⟨rfl, hk⟩]
  show ((lab.simBody k).slots.modify si g).getD si default = g ((lab.simBody k).slots.getD si default)
  rw [getD_modify_slots, if_pos ⟨rfl, hsi⟩]

theorem callFrame_modifySlot (k si : Nat) (g : ControllerSlot → ControllerSlot) :
    CallFrame k si lab (lab.modifyBody k fun b => { b with slots := b.slots.modify si g }) :=
  callFrame_modifyBody _ k si (fun _ => rfl) fun _ i hi => by rw [getD_modify_slots, if_neg fun h => hi h.1]

theorem failedCall_spec (k si : Nat) (hk : k < lab.run.bodies.size) (hsi : si < (lab.simBody k).slots.size) :
    let L := ((lab.modifyBody k fun b => { b with slots := b.slots.modify si fun s =>
      { s with running := false, failed := true } }).freeze k).measure (·.incFailures)
    L.assembly = lab.assembly ∧ L.sim.meter = lab.sim.meter.map (·.incFailures) ∧
      L.slotAt k si = { lab.slotAt k si with running := false, failed := true } ∧
      (L.simBody k).isFrozen = true ∧
      (L.simBody k).frozen =
        (if (lab.simBody k).isFrozen then (lab.simBody k).frozen else lab.assembly.efforts (lab.simBody k).body) ∧
      CallFrame k si lab L := by
  intro L
  -- the slot is stopped first; freezing reads the body as the stop left it
  set l₁ := lab.modifyBody k fun b => { b with slots := b.slots.modify si fun s =>
    { s with running := false, failed := true } } with hl₁
  have hbody : l₁.simBody k = { lab.simBody k with slots := (lab.simBody k).slots.modify si fun s =>
      { s with running := false, failed := true } } := by
    rw [hl₁, simBody_modifyBody]
    simp [hk]
  have hsize : l₁.run.bodies.size = lab.run.bodies.size := size_bodies_modifyBody _ _ _
  have hL : L.simBody k = (l₁.freeze k).simBody k := rfl
  refine ⟨?_, ?_, ?_, ?_, ?_, ?_⟩
  · show (l₁.freeze k).assembly = _
    rw [assembly_freeze]
    rfl
  · show ((l₁.freeze k).sim.meter).map _ = _
    rw [meter_freeze]
    rfl
  · show (l₁.freeze k).slotAt k si = _
    rw [slotAt_freeze, hl₁, slotAt_modifySlot _ _ _ _ hk hsi]
  · rw [hL, simBody_freeze]
    by_cases hfz : (lab.simBody k).isFrozen = true
    · simp [hbody, hfz]
    · simp [hbody, hsize, hk, hfz]
  · have hasm : l₁.assembly = lab.assembly := rfl
    rw [hL, simBody_freeze]
    by_cases hfz : (lab.simBody k).isFrozen = true
    · simp [hbody, hfz]
    · simp [hbody, hsize, hk, hfz, hasm]
  · have h₂ : CallFrame k si l₁ (l₁.freeze k) := callFrame_freeze _ k si
    exact ((callFrame_modifySlot _ k si _).trans h₂).trans ⟨rfl, rfl, fun _ => rfl, fun _ _ _ => rfl⟩

/-! ## The three outcomes -/

section Call

variable (env : Control.Env) (k : Nat) (sb : SimBody) (si : Nat)

theorem runSlot_of_stopped (hs : (sb.slots[si]!).running = false) : runSlot env k sb lab si = lab := by
  unfold runSlot
  simp [hs]

theorem runSlot_of_running (hs : (sb.slots[si]!).running = true) :
    runSlot env k sb lab si =
      let idx := (sb.slots[si]!).controller
      let l := lab.withCalled env idx
      match CallOutcome.of (lab.callOf env idx) with
      | .goesOn => l.withAssembly ((lab.called env idx).output lab.assembly)
      | .finished => (l.withAssembly ((lab.called env idx).output lab.assembly)).modifyBody k fun b =>
          { b with slots := b.slots.modify si fun s => { s with running := false } }
      | .failed => ((l.modifyBody k fun b => { b with slots := b.slots.modify si fun s =>
          { s with running := false, failed := true } }).freeze k).measure (·.incFailures) := by
  unfold runSlot driveController withCalled called callOf
  simp only [hs, Bool.not_true, Bool.false_eq_true, if_false]
  generalize ((lab.controllers.getD (sb.slots[si]!).controller default).input lab.assembly).control env = r
  rcases r with msg | ⟨c', _ | f⟩
  · -- a breakdown
    simp [CallOutcome.of, callResult, stopSlot, Failure.has]
  · -- the controller goes on
    simp [CallOutcome.of, callResult, Control.Controller.writesOutput]
  · cases hf : f.has .controllerDone
    · -- a problem: nothing is written
      simp [CallOutcome.of, callResult, stopSlot, Control.Controller.writesOutput, hf]
    · -- the controller finished: its efforts are written
      simp [CallOutcome.of, callResult, stopSlot, Control.Controller.writesOutput, hf]

/-- A failed call writes no efforts, stops its slot and marks it failed,
holds the body's efforts where the failure found them (unless they were held
already) and counts one failure; the run goes on. -/
theorem runSlot_of_failed (hs : (sb.slots[si]!).running = true)
    (ho : CallOutcome.of (lab.callOf env (sb.slots[si]!).controller) = .failed)
    (hk : k < lab.run.bodies.size) (hsi : si < (lab.simBody k).slots.size) :
    (runSlot env k sb lab si).assembly = lab.assembly ∧
      (runSlot env k sb lab si).sim.meter = lab.sim.meter.map (·.incFailures) ∧
      (runSlot env k sb lab si).slotAt k si = { lab.slotAt k si with running := false, failed := true } ∧
      ((runSlot env k sb lab si).simBody k).isFrozen = true ∧
      ((runSlot env k sb lab si).simBody k).frozen =
        (if (lab.simBody k).isFrozen then (lab.simBody k).frozen else lab.assembly.efforts (lab.simBody k).body) ∧
      CallFrame k si lab (runSlot env k sb lab si) := by
  rw [runSlot_of_running lab env k sb si hs]
  dsimp only
  rw [ho]
  dsimp only
  -- the call changed only the controller, which the frame does not see
  obtain ⟨h₁, h₂, h₃, h₄, h₅, h₆⟩ := failedCall_spec (lab.withCalled env (sb.slots[si]!).controller) k si hk hsi
  exact ⟨h₁, h₂, h₃, h₄, h₅, ⟨h₆.stop, h₆.size, h₆.active, h₆.others⟩⟩

theorem runSlot_of_finished (hs : (sb.slots[si]!).running = true)
    (ho : CallOutcome.of (lab.callOf env (sb.slots[si]!).controller) = .finished)
    (hk : k < lab.run.bodies.size) (hsi : si < (lab.simBody k).slots.size) :
    (runSlot env k sb lab si).assembly = (lab.called env (sb.slots[si]!).controller).output lab.assembly ∧
      (runSlot env k sb lab si).sim.meter = lab.sim.meter ∧
      (runSlot env k sb lab si).slotAt k si = { lab.slotAt k si with running := false } ∧
      ((runSlot env k sb lab si).simBody k).isFrozen = (lab.simBody k).isFrozen ∧
      ((runSlot env k sb lab si).simBody k).frozen = (lab.simBody k).frozen ∧
      CallFrame k si lab (runSlot env k sb lab si) := by
  rw [runSlot_of_running lab env k sb si hs]
  dsimp only
  rw [ho]
  dsimp only
  set l := (lab.withCalled env (sb.slots[si]!).controller).withAssembly
    ((lab.called env (sb.slots[si]!).controller).output lab.assembly) with hl
  have hbody : ∀ j, l.simBody j = lab.simBody j := fun _ => rfl
  have hk' : k < l.run.bodies.size := hk
  refine ⟨rfl, rfl, slotAt_modifySlot l k si _ hk hsi, ?_, ?_,
    (⟨rfl, rfl, fun _ => rfl, fun _ _ _ => rfl⟩ : CallFrame k si lab l).trans (callFrame_modifySlot l k si _)⟩
  · rw [simBody_modifyBody]
    simp [hk', hbody]
  · rw [simBody_modifyBody]
    simp [hk', hbody]

theorem runSlot_of_goesOn (hs : (sb.slots[si]!).running = true)
    (ho : CallOutcome.of (lab.callOf env (sb.slots[si]!).controller) = .goesOn) :
    runSlot env k sb lab si =
      (lab.withCalled env (sb.slots[si]!).controller).withAssembly
        ((lab.called env (sb.slots[si]!).controller).output lab.assembly) := by
  rw [runSlot_of_running lab env k sb si hs]
  dsimp only
  rw [ho]

end Call

end Lab

end Multibody.Sim
