import Mathlib
import Multibody.Proofs.Schedule.Stages

/-!
# When a run ends by its time range

A run ends after the step whose time reaches its range's length, or the
timeline's end.  Every stage keeps the run's `Clock` but the last, which
moves the frame on (`step_clock`), when the handlers leave it alone
(`Handlers.KeepsClock`).  So a run ends right after the first frame that
reaches the bound, and its result does not depend on the fuel
(`run_ends_at_its_time_range`).  No such frame need exist
(`reachesAt_of_isNaN`).
-/

namespace Multibody.Sim

variable {τ σ : Type}

/-- What decides when a run reaches the end of its time range: the run's
settings and frame, and the end of the world's timeline. -/
structure Clock where
  run : Option (Config × Int)
  horizon : Float

/-- The clock one frame on. -/
def Clock.tick (c : Clock) : Clock := { c with run := c.run.map fun p => (p.1, p.2 + 1) }

/-- Whether frame `F` of a run with settings `cfg` is at the end its time
range sets by time: the length of a specified range, or `horizon`, the end
of the timeline, for a range that follows the timeline.  No other range
ends by time. -/
def Config.reachesAt (cfg : Config) (horizon : Float) (F : Int) : Bool :=
  match cfg.timeRange with
  | .specified => Float.ofInt F * cfg.timeStep ≥ cfg.timeLength - timeEpsilon
  | .timeline => Float.ofInt F * cfg.timeStep ≥ horizon - timeEpsilon
  | _ => false

section NotANumber

open Float.Model

theorem unpack_of_isNaN {a : Float} (h : a.isNaN = true) : a.toModel.unpack = .notANumber := by
  unfold Float.isNaN Float.Model.isNaN at h
  cases hu : a.toModel.unpack <;> simp_all [UnpackedFloat.isNaN]

theorem unpack_mul_of_isNaN (x : Float) {a : Float} (h : a.isNaN = true) :
    (x * a).toModel.unpack = .notANumber := by
  have hmul : ∀ u, UnpackedFloat.mul Format.binary64 u .notANumber = .notANumber := by
    intro u
    cases u <;> rfl
  show (pack (UnpackedFloat.mul Format.binary64 x.toModel.unpack a.toModel.unpack)).unpack = _
  rw [unpack_of_isNaN h, hmul]
  rfl

theorem not_le_of_unpack {c a : Float} (h : a.toModel.unpack = .notANumber) : ¬ c ≤ a := by
  have hle : ∀ u, UnpackedFloat.le u .notANumber = false := by
    intro u
    cases u <;> rfl
  show ¬ (decide (c.toModel.unpack.le a.toModel.unpack = true) = true)
  rw [h, hle]
  decide

end NotANumber

theorem reachesAt_of_isNaN (cfg : Config) (horizon : Float) (hnan : cfg.timeStep.isNaN = true) (F : Int) :
    cfg.reachesAt horizon F = false := by
  have hnot : ∀ c : Float, ¬ c ≤ Float.ofInt F * cfg.timeStep := fun c =>
    not_le_of_unpack (unpack_mul_of_isNaN _ hnan)
  unfold Config.reachesAt
  split <;> simp [hnot]

namespace Lab

/-- The clock of a lab. -/
def clock (lab : Lab τ σ) : Clock := ⟨lab.sim.run.map fun r => (r.cfg, r.frame), lab.world.timeline.«end»⟩

variable (lab : Lab τ σ)

theorem run_of_clock {cfg : Config} {g : Int} {horizon : Float} (hc : lab.clock = ⟨some (cfg, g), horizon⟩) :
    lab.run.cfg = cfg ∧ lab.run.frame = g ∧ lab.world.timeline.«end» = horizon := by
  simp only [clock, Clock.mk.injEq] at hc
  obtain ⟨hr, hh⟩ := hc
  cases hrun : lab.sim.run with
  | none => simp [hrun] at hr
  | some r =>
    simp only [hrun, Option.map_some, Option.some.injEq, Prod.mk.injEq] at hr
    simp [run, hrun, hr, hh]

theorem reachedEnd_of_clock {cfg : Config} {g : Int} {horizon : Float} (hc : lab.clock = ⟨some (cfg, g), horizon⟩)
    (hrange : cfg.timeRange ≠ .activeControl) : lab.reachedEnd = cfg.reachesAt horizon g := by
  obtain ⟨hcfg, hg, hh⟩ := lab.run_of_clock hc
  unfold reachedEnd Config.reachesAt
  dsimp only
  rw [hcfg]
  cases hr : cfg.timeRange <;> simp_all [Run.time, Timeline.endReached]

theorem clock_erase : lab.erase.clock = lab.clock := by
  cases hr : lab.sim.run <;> simp [clock, erase, hr, Run.erase]

theorem SameRun.clock_eq {lab₁ lab₂ : Lab τ σ} (h : lab₁.SameRun lab₂) : lab₁.clock = lab₂.clock := by
  rw [← clock_erase, h.erase, clock_erase]

/-! ## Operations that keep the clock -/

@[simp] theorem clock_withAssembly (a : Assembly) : (lab.withAssembly a).clock = lab.clock := rfl

@[simp] theorem clock_measure (f : Observe.Meter → Observe.Meter) : (lab.measure f).clock = lab.clock := rfl

@[simp] theorem clock_setControllers (cs : Array Control.Controller) :
    ({ lab with controllers := cs }).clock = lab.clock := rfl

@[simp] theorem clock_modifyItem (i : Nat) (f : BodyItem → BodyItem) : (lab.modifyItem i f).clock = lab.clock := rfl

theorem clock_modifyRun {f : Run → Run} (hf : ∀ r, (f r).cfg = r.cfg ∧ (f r).frame = r.frame) :
    (lab.modifyRun f).clock = lab.clock := by
  cases hr : lab.sim.run <;> simp [clock, modifyRun, modifySim, hr, hf]

@[simp] theorem clock_modifyBody (k : Nat) (f : SimBody → SimBody) : (lab.modifyBody k f).clock = lab.clock :=
  lab.clock_modifyRun fun _ => ⟨rfl, rfl⟩

theorem clock_flush : lab.flush.clock = lab.clock := by
  rw [← clock_erase, erase_flush, clock_erase]

/-! ## The stages of a step -/

theorem clock_freeze (k : Nat) : (lab.freeze k).clock = lab.clock := by
  unfold freeze
  dsimp only
  split
  · rfl
  · exact clock_modifyBody _ _ _

theorem clock_driveController (env : Control.Env) (idx : Nat) :
    (lab.driveController env idx).1.clock = lab.clock := by
  unfold driveController
  dsimp only
  split
  · rfl
  · split <;> rfl

theorem clock_stopSlot (k si : Nat) (f : Failure) : (lab.stopSlot k si f).clock = lab.clock := by
  unfold stopSlot
  dsimp only
  split
  · rw [clock_measure, clock_freeze, clock_modifyBody]
  · exact clock_modifyBody _ _ _

theorem clock_runSlot (env : Control.Env) (k : Nat) (sb : SimBody) (si : Nat) :
    (runSlot env k sb lab si).clock = lab.clock := by
  unfold runSlot
  dsimp only
  split
  · rfl
  · have h := lab.clock_driveController env (sb.slots[si]!).controller
    split <;> rename_i lab' _ heq <;> rw [heq] at h
    · exact h
    · exact (clock_stopSlot _ _ _ _).trans h

theorem clock_runControllers (k : Nat) : (lab.runControllers k).clock = lab.clock := by
  unfold runControllers
  dsimp only
  rw [foldl_keeps clock _ (fun lab si => clock_runSlot lab _ k _ si)]
  split <;> rfl

theorem clock_runAllControllers : lab.runAllControllers.clock = lab.clock :=
  foldl_keeps clock _ clock_runControllers _ _

theorem clock_clearForces : lab.clearForces.clock = lab.clock := by
  unfold clearForces
  rw [← Array.foldl_toList]
  exact foldl_keeps clock _ (fun l _ => clock_withAssembly l _) _ _

theorem clock_forceLapsed (now : Float) (f : ForceCommand) : (lab.forceLapsed now f).1.clock = lab.clock := by
  unfold forceLapsed
  split
  · split
    · rfl
    · exact clock_modifyRun _ fun _ => ⟨rfl, rfl⟩
  · rfl

theorem clock_applyForce (now : Float) (f : ForceCommand) : (lab.applyForce now f).clock = lab.clock := by
  unfold applyForce
  dsimp only
  split
  · rfl
  · split
    · rfl
    · split
      · rfl
      · have h := lab.clock_forceLapsed now f
        split <;> rename_i heq <;> rw [heq] at h <;> simpa using h

theorem clock_applyString (s : StringCommand) : (lab.applyString s).clock = lab.clock := by
  unfold applyString
  dsimp only
  split
  · rfl
  · split
    · rfl
    · split <;> rfl

theorem clock_applyPerturbations (p : Perturbations) : (lab.applyPerturbations p).clock = lab.clock := by
  unfold applyPerturbations
  dsimp only
  rw [← Array.foldl_toList, foldl_keeps clock _ clock_applyString, ← Array.foldl_toList,
    foldl_keeps clock _ (fun lab f => clock_applyForce lab _ f)]

theorem clock_holdForcedPose (fp : ForcedPose) : (lab.holdForcedPose fp).clock = lab.clock := by
  unfold holdForcedPose
  dsimp only
  split
  · rfl
  · split
    · rfl
    · split <;> rfl

theorem clock_holdForcedPoses (p : Perturbations) : (lab.holdForcedPoses p).clock = lab.clock := by
  unfold holdForcedPoses
  rw [← Array.foldl_toList]
  exact foldl_keeps clock _ clock_holdForcedPose _ _

theorem clock_queryDetector (d : Detector) : (lab.queryDetector d).1.clock = lab.clock := by
  unfold queryDetector
  split
  · exact clock_modifyRun _ fun _ => ⟨rfl, rfl⟩
  · rfl

theorem clock_useContacts (pairs : Array LinkPair) : (lab.useContacts pairs).clock = lab.clock := by
  unfold useContacts
  dsimp only
  split <;> exact clock_modifyRun _ fun _ => ⟨rfl, rfl⟩

theorem clock_detectCollisions : lab.detectCollisions.clock = lab.clock := by
  unfold detectCollisions
  split
  · rfl
  · rename_i d _
    have h := lab.clock_queryDetector d
    split
    rename_i l pairs heq
    rw [heq] at h
    exact (clock_useContacts l pairs).trans h

theorem clock_advance : lab.advance.1.clock = lab.clock := by
  unfold advance
  split
  · rfl
  · dsimp only
    split <;> rfl

theorem clock_completeStep (h : Handlers τ σ) : (lab.completeStep h).clock = lab.clock.tick := by
  unfold completeStep bufferAll
  dsimp only
  have hbuf : ∀ lab' : Lab τ σ, ((List.range lab'.run.bodies.size).foldl
      (fun lab k => lab.bufferResults k lab'.run.frame lab'.run.time) lab').clock = lab'.clock :=
    fun lab' => foldl_keeps clock _ (fun l k => clock_modifyBody l k _) _ _
  have hrun : (lab.modifyRun fun r => { r with frame := r.frame + 1 }).clock = lab.clock.tick := by
    cases hr : lab.sim.run <;> simp [clock, modifyRun, modifySim, hr, Clock.tick]
  split
  · rw [clock_flush, clock_measure, hbuf]
    exact hrun
  · rw [clock_measure, hbuf]
    exact hrun

end Lab

/-- A driver whose hooks and observers leave the run's settings and frame
and the timeline's end alone. -/
def Handlers.KeepsClock (h : Handlers τ σ) : Prop :=
  (∀ id task lab, (h.hook id task lab).1.clock = lab.clock) ∧ ∀ ev lab, (h.event ev lab).clock = lab.clock

namespace Lab

variable {h : Handlers τ σ}

theorem clock_beginStep (hk : h.KeepsClock) (lab : Lab τ σ) : (lab.beginStep h).clock = lab.clock := by
  unfold beginStep
  dsimp only
  split
  · rw [hk.2, clock_measure]
    exact clock_modifyRun _ fun _ => ⟨rfl, rfl⟩
  · rfl

theorem clock_holdRun (hk : h.KeepsClock) (lab : Lab τ σ) : (lab.holdRun h).1.clock = lab.clock := by
  unfold holdRun
  dsimp only
  split
  · rw [hk.2, clock_flush]
  · rw [hk.2, hk.2, clock_flush]

/-! ## A step -/

theorem step_clock (hk : h.KeepsClock) (lab : Lab τ σ) :
    ((lab.step h).2.isSome ∧ (lab.step h).1.clock = lab.clock) ∨
      ((lab.step h).2 = none ∧ (lab.step h).1.clock = lab.clock.tick) := by
  rcases step_cases_by (fun x => x.clock = lab.clock) (fun x hx => (clock_beginStep hk x).trans hx)
      (fun x hx => (clock_clearForces x).trans hx) (fun x p hx => (clock_applyPerturbations x p).trans hx)
      (fun x p hx => (clock_holdForcedPoses x p).trans hx) (fun x hx => (clock_runAllControllers x).trans hx)
      (fun x ph hx => (runPhase_keeps x clock hk.1 ph).trans hx) (fun x hx => (clock_detectCollisions x).trans hx)
      (fun x hx => (clock_advance x).trans hx) rfl with hf | ⟨mid, hmid, heq⟩
  · exact Or.inl hf
  · refine Or.inr ⟨by rw [heq], ?_⟩
    rw [heq, clock_completeStep, hmid]

/-! ## The loop, frame by frame -/

section Turns

variable {cfg : Config} {horizon : Float}

/-- A turn of the loop on a run that is going takes a step: it fails and
ends the run with the clock where it was, or it goes through, moving the
clock one frame on, and the run ends there or goes on. -/
theorem loop_of_going (hk : h.KeepsClock) {lab : Lab τ σ} (hs : lab.run.stop = false)
    (hp : (lab.sim.state == .paused) = false) :
    (∃ l e, l.clock = lab.clock ∧ ∀ k, loop h (k + 1) lab = (l, { abnormal := true, err := some e })) ∨
      ∃ l, l.clock = lab.clock.tick ∧ ∀ k, loop h (k + 1) lab = if l.reachedEnd then (l, {}) else loop h k l := by
  rcases step_clock hk lab with ⟨hf, hcl⟩ | ⟨hn, hcl⟩
  · obtain ⟨e, he⟩ := Option.isSome_iff_exists.1 hf
    refine Or.inl ⟨(lab.step h).1, e, hcl, fun k => loop_of_failed h k hs hp ?_⟩
    rw [← he]
  · refine Or.inr ⟨(lab.step h).1.measure (·.observeStep 0), ?_, fun k => loop_of_stepped h k hs hp ?_⟩
    · rw [clock_measure, hcl]
    · rw [← hn]

theorem loop_of_held (hr : h.Restarts) {lab : Lab τ σ} (hs : lab.run.stop = false)
    (hp : (lab.sim.state == .paused) = true) :
    (lab.holdRun h).1.clock = lab.clock ∧ (lab.holdRun h).1.run.stop = false ∧
      ((lab.holdRun h).1.sim.state == .paused) = false ∧ ∀ k, loop h (k + 1) lab = loop h k (lab.holdRun h).1 := by
  obtain ⟨hh, hsame, hgo⟩ := holdRun_of_restarts hr hs
  exact ⟨hsame.clock_eq, (hsame.run_eq Run.stop fun _ => rfl).trans hs, hgo, fun k => loop_of_holding h k hs hp hh⟩

theorem loop_clock (hk : h.KeepsClock) :
    ∀ (fuel : Nat) (lab : Lab τ σ) (g : Int), lab.clock = ⟨some (cfg, g), horizon⟩ →
      ∃ g', g ≤ g' ∧ (loop h fuel lab).1.clock = ⟨some (cfg, g'), horizon⟩
  | 0, lab, g, hc => ⟨g, le_refl g, hc⟩
  | fuel + 1, lab, g, hc => by
    cases hs : lab.run.stop
    case true => exact ⟨g, le_refl g, by rw [loop_of_stop h fuel hs]; exact hc⟩
    cases hp : (lab.sim.state == .paused)
    case true =>
      -- a hold keeps the clock, whether the run goes on or not
      have h₁ := (clock_holdRun hk lab).trans hc
      rw [loop, hs, hp, if_neg Bool.false_ne_true, if_pos rfl]
      split <;> rename_i heq <;> rw [heq] at h₁
      · exact loop_clock hk fuel _ g h₁
      · exact ⟨g, le_refl g, h₁⟩
    case false =>
      rcases loop_of_going hk hs hp with ⟨l, e, hcl, hl⟩ | ⟨l, hcl, hl⟩
      · exact ⟨g, le_refl g, by rw [hl]; exact hcl.trans hc⟩
      · have h₁ : l.clock = ⟨some (cfg, g + 1), horizon⟩ := by rw [hcl, hc]; rfl
        rw [hl]
        split
        · exact ⟨g + 1, by omega, h₁⟩
        · obtain ⟨g', hg', hc'⟩ := loop_clock hk fuel l (g + 1) h₁
          exact ⟨g', by omega, hc'⟩

theorem loop_takes_a_step (hk : h.KeepsClock) (hr : h.Restarts) {lab : Lab τ σ} {g : Int}
    (hc : lab.clock = ⟨some (cfg, g), horizon⟩) (hs : lab.run.stop = false) (k : Nat) :
    g < (loop h (k + 2) lab).1.run.frame ∨ (loop h (k + 2) lab).2.abnormal = true := by
  -- from a run that is going, the next turn takes the step
  have hgo : ∀ l : Lab τ σ, l.clock = lab.clock → l.run.stop = false → (l.sim.state == .paused) = false →
      ∀ j, g < (loop h (j + 1) l).1.run.frame ∨ (loop h (j + 1) l).2.abnormal = true := by
    intro l hlc hls hlp j
    rcases loop_of_going hk hls hlp with ⟨l', e, -, hl⟩ | ⟨l', hcl, hl⟩
    · exact Or.inr (by rw [hl])
    · have h₁ : l'.clock = ⟨some (cfg, g + 1), horizon⟩ := by rw [hcl, hlc, hc]; rfl
      obtain ⟨g', hg', hc'⟩ := loop_clock hk j l' (g + 1) h₁
      have hf' := (run_of_clock _ hc').2.1
      have hf₁ := (run_of_clock _ h₁).2.1
      rw [hl]
      left
      split
      · show g < l'.run.frame
        omega
      · omega
  cases hp : (lab.sim.state == .paused)
  case false => exact hgo lab rfl hs hp (k + 1)
  case true =>
    obtain ⟨hcl, hs', hp', hl⟩ := loop_of_held hr hs hp
    rw [hl]
    exact hgo _ hcl hs' hp' k

/-- How a run ends with respect to frame `F`: right after the step that
produces `F`; or before `F`, stopped or failed. -/
def EndsBy (F : Int) (r : Lab τ σ × FinishInfo) : Prop :=
  (r.1.run.frame = F ∧ r.2.abnormal = false) ∨ (r.1.run.frame < F ∧ (r.1.run.stop = true ∨ r.2.abnormal = true))

/-- That a run settles by frame `F` within `N` turns of the loop: with
`N` turns or more it ends the same way, by `F`. -/
def SettlesBy (h : Handlers τ σ) (F : Int) (N : Nat) (lab : Lab τ σ) : Prop :=
  ∀ fuel, N ≤ fuel → loop h fuel lab = loop h N lab ∧ EndsBy F (loop h fuel lab)

variable {F : Int}

/-- One frame of a run that is going, `n + 1` frames before the first frame
`F` that reaches the bound: its step fails, or takes it to `F`, where it
ends, or to a frame from which it settles by `F`. -/
theorem going_settles (hk : h.KeepsClock) (hrange : cfg.timeRange ≠ .activeControl)
    (hF : cfg.reachesAt horizon F = true) {n : Nat} {lab : Lab τ σ} {g : Int} (hgF : g + (n + 1) = F)
    (hc : lab.clock = ⟨some (cfg, g), horizon⟩) (hs : lab.run.stop = false) (hp : (lab.sim.state == .paused) = false)
    (hmin : ∀ G, g < G → G < F → cfg.reachesAt horizon G = false)
    (hnext : ∀ l : Lab τ σ, l.clock = ⟨some (cfg, g + 1), horizon⟩ → 0 < n → SettlesBy h F (2 * n) l) :
    ∀ k, 2 * n ≤ k → loop h (k + 1) lab = loop h (2 * n + 1) lab ∧ EndsBy F (loop h (k + 1) lab) := by
  intro k hkn
  rcases loop_of_going hk hs hp with ⟨l, e, hcl, hl⟩ | ⟨l, hcl, hl⟩
  · -- the step fails: the run ends where it was
    refine ⟨(hl k).trans (hl (2 * n)).symm, ?_⟩
    have hg := (run_of_clock l (hcl.trans hc)).2.1
    rw [hl]
    refine Or.inr ⟨?_, Or.inr rfl⟩
    show l.run.frame < F
    omega
  · have h₁ : l.clock = ⟨some (cfg, g + 1), horizon⟩ := by rw [hcl, hc]; rfl
    have hg := (run_of_clock l h₁).2.1
    have hend := reachedEnd_of_clock l h₁ hrange
    rw [hl, hl]
    cases n with
    | zero =>
      -- the step produces `F`
      have hl_end : l.reachedEnd = true := by
        rw [hend, show g + 1 = F by omega]
        exact hF
      rw [hl_end, if_pos rfl]
      refine ⟨rfl, Or.inl ⟨?_, rfl⟩⟩
      show l.run.frame = F
      omega
    | succ m =>
      -- the step produces a frame before `F`, from which the run settles
      have hl_end : l.reachedEnd = false := by
        rw [hend]
        exact hmin (g + 1) (by omega) (by omega)
      rw [hl_end, if_neg Bool.false_ne_true]
      obtain ⟨heq, hby⟩ := hnext l h₁ (by omega) k hkn
      obtain ⟨heq', -⟩ := hnext l h₁ (by omega) (2 * (m + 1)) le_rfl
      exact ⟨heq.trans heq'.symm, hby⟩

theorem settles_of_going (hr : h.Restarts) {n : Nat} {lab : Lab τ σ} {g : Int} (hgF : g < F)
    (hc : lab.clock = ⟨some (cfg, g), horizon⟩)
    (hgo : ∀ l : Lab τ σ, l.clock = lab.clock → l.run.stop = false → (l.sim.state == .paused) = false →
      ∀ k, 2 * n ≤ k → loop h (k + 1) l = loop h (2 * n + 1) l ∧ EndsBy F (loop h (k + 1) l)) :
    SettlesBy h F (2 * (n + 1)) lab := by
  intro fuel hfuel
  obtain ⟨k, rfl⟩ : ∃ k, fuel = k + 2 := ⟨fuel - 2, by omega⟩
  rw [show 2 * (n + 1) = 2 * n + 1 + 1 by ring]
  cases hs : lab.run.stop
  case true =>
    rw [loop_of_stop h _ hs, loop_of_stop h _ hs]
    have hg := (run_of_clock lab hc).2.1
    refine ⟨rfl, Or.inr ⟨?_, Or.inl hs⟩⟩
    show lab.run.frame < F
    omega
  cases hp : (lab.sim.state == .paused)
  case true =>
    obtain ⟨hcl, hs', hp', hl⟩ := loop_of_held hr hs hp
    rw [hl, hl]
    obtain ⟨heq, hby⟩ := hgo _ hcl hs' hp' k (by omega)
    obtain ⟨heq', -⟩ := hgo _ hcl hs' hp' (2 * n) le_rfl
    exact ⟨heq.trans heq'.symm, hby⟩
  case false =>
    obtain ⟨heq, hby⟩ := hgo lab rfl hs hp (k + 1) (by omega)
    obtain ⟨heq', -⟩ := hgo lab rfl hs hp (2 * n + 1) (by omega)
    exact ⟨heq.trans heq'.symm, hby⟩

theorem settlesBy_of_first (hk : h.KeepsClock) (hr : h.Restarts) (hrange : cfg.timeRange ≠ .activeControl)
    (hF : cfg.reachesAt horizon F = true) :
    ∀ (n : Nat) (lab : Lab τ σ) (g : Int), g + (n + 1) = F → lab.clock = ⟨some (cfg, g), horizon⟩ →
      (∀ G, g < G → G < F → cfg.reachesAt horizon G = false) → SettlesBy h F (2 * (n + 1)) lab := by
  intro n
  induction n with
  | zero =>
    intro lab g hgF hc hmin
    refine settles_of_going hr (by omega) hc fun l hlc hs hp => ?_
    exact going_settles hk hrange hF hgF (hlc.trans hc) hs hp hmin fun _ _ h0 => absurd h0 (lt_irrefl 0)
  | succ m ih =>
    intro lab g hgF hc hmin
    -- from the next frame on, the run settles by the induction hypothesis
    have hnext : ∀ l : Lab τ σ, l.clock = ⟨some (cfg, g + 1), horizon⟩ → 0 < m + 1 →
        SettlesBy h F (2 * (m + 1)) l := fun l hl _ =>
      ih l (g + 1) (by omega) hl fun G h₁ h₂ => hmin G (by omega) h₂
    refine settles_of_going hr (by omega) hc fun l hlc hs hp => ?_
    exact going_settles hk hrange hF hgF (hlc.trans hc) hs hp hmin hnext

end Turns

theorem clock_of_isSome {lab : Lab τ σ} (hrun : lab.sim.run.isSome = true) :
    lab.clock = ⟨some (lab.run.cfg, lab.run.frame), lab.world.timeline.«end»⟩ := by
  obtain ⟨r, hr⟩ := Option.isSome_iff_exists.1 hrun
  simp [clock, run, hr]

end Lab

open Lab

/-- A run whose driver restarts every hold and leaves the clock alone, at
frame `f0`, with `F` the first frame after it whose time reaches the end of
its time range, settles within two turns of the loop a frame: it ends right
after the step that produces `F`, or before it, stopped or failed.  And it
takes at least one step unless it is stopped before it. -/
theorem run_ends_at_its_time_range (h : Handlers τ σ) (hk : h.KeepsClock) (hr : h.Restarts) (lab : Lab τ σ)
    (hrun : lab.sim.run.isSome = true) {F : Int} (hlt : lab.run.frame < F)
    (hF : lab.run.cfg.reachesAt lab.world.timeline.«end» F = true)
    (hmin : ∀ G, lab.run.frame < G → G < F → lab.run.cfg.reachesAt lab.world.timeline.«end» G = false)
    (fuel : Nat) (hfuel : 2 * (F - lab.run.frame).toNat ≤ fuel) :
    loop h fuel lab = loop h (2 * (F - lab.run.frame).toNat) lab ∧ EndsBy F (loop h fuel lab) ∧
      (lab.run.stop = false → lab.run.frame < (loop h fuel lab).1.run.frame ∨ (loop h fuel lab).2.abnormal = true) := by
  have hc := clock_of_isSome hrun
  -- only a range that ends by time has a frame that reaches its end
  have hrange : lab.run.cfg.timeRange ≠ .activeControl := by
    intro ha
    simp [Config.reachesAt, ha] at hF
  obtain ⟨n, hn⟩ : ∃ n : Nat, (F - lab.run.frame).toNat = n + 1 := ⟨(F - lab.run.frame).toNat - 1, by omega⟩
  rw [hn] at hfuel ⊢
  obtain ⟨hsame, hends⟩ := settlesBy_of_first hk hr hrange hF n lab lab.run.frame (by omega) hc hmin fuel hfuel
  refine ⟨hsame, hends, fun hs => ?_⟩
  obtain ⟨k, rfl⟩ : ∃ k, fuel = k + 2 := ⟨fuel - 2, by omega⟩
  exact loop_takes_a_step hk hr hc hs k

theorem steadyHandlers_keepsClock : steadyHandlers.KeepsClock := by
  refine ⟨fun _ _ _ => rfl, fun ev lab => ?_⟩
  simp only [steadyHandlers]
  split <;> rfl

/-- A run of ten milliseconds a step over a range of fifty. -/
def rangeLab : Lab Unit Unit :=
  { armLab with
    sim := { armLab.sim with
             run := some { cfg := { timeStep := 0.01, timeRange := .specified, timeLength := 0.05 }, record := false,
                           frame := 0, startFrame := 0 },
             state := .running } }

/-- The run of `rangeLab` settles by frame five within ten turns. -/
theorem rangeLab_ends_at_five :
    rangeLab.sim.run.isSome = true ∧ rangeLab.run.frame < 5 ∧
      rangeLab.run.cfg.reachesAt rangeLab.world.timeline.«end» 5 = true ∧
      (∀ G, rangeLab.run.frame < G → G < 5 → rangeLab.run.cfg.reachesAt rangeLab.world.timeline.«end» G = false) ∧
      (loop steadyHandlers 10 rangeLab = loop steadyHandlers (2 * (5 - rangeLab.run.frame).toNat) rangeLab ∧
        EndsBy 5 (loop steadyHandlers 10 rangeLab) ∧
        (rangeLab.run.stop = false → rangeLab.run.frame < (loop steadyHandlers 10 rangeLab).1.run.frame ∨
          (loop steadyHandlers 10 rangeLab).2.abnormal = true)) := by
  have hrun : rangeLab.sim.run.isSome = true := rfl
  have hlt : rangeLab.run.frame < 5 := by decide
  have hF : rangeLab.run.cfg.reachesAt rangeLab.world.timeline.«end» 5 = true := by decide +kernel
  have hmin : ∀ G, rangeLab.run.frame < G → G < 5 →
      rangeLab.run.cfg.reachesAt rangeLab.world.timeline.«end» G = false := by
    intro G h₁ h₂
    have h₀ : rangeLab.run.frame = 0 := rfl
    rw [h₀] at h₁
    interval_cases G <;> decide +kernel
  exact ⟨hrun, hlt, hF, hmin, run_ends_at_its_time_range steadyHandlers steadyHandlers_keepsClock
    steadyHandlers_restarts rangeLab hrun hlt hF hmin 10 (by decide)⟩

end Multibody.Sim
