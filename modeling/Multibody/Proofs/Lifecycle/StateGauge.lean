import Multibody.Proofs.Schedule.Stages
import Multibody.Proofs.Settings.Archive
import Multibody.Api.Session
import Multibody.App.Session
import Multibody.Proofs.Loops

/-!
# The state gauge follows the simulator's state

`Lab.setState` sets the state (0 idle, 1 running, 2 paused) and its gauge
together, and nothing else writes either: on a meter whose state gauge is
its own (`Meter.Sound`), other reports leave it alone (`Meter.Beside`).  So
`Lab.GaugeTracks` is an invariant of every setup, step, hold and teardown.
-/

namespace Multibody.Observe

namespace Meter

/-- The places of a meter's instruments other than its state gauge. -/
def others (m : Meter) : List Nat := [m.frame, m.active, m.step, m.flushes, m.flushed, m.failures, m.runs]

/-- What the state gauge reads. -/
def stateReading (m : Meter) : Option Float := m.registry.instruments[m.state]?.map (·.value)

/-- The state gauge is a gauge, and no other instrument of the meter sits in
its place. -/
structure Sound (m : Meter) : Prop where
  gauge : ∃ i, m.registry.instruments[m.state]? = some i ∧ (i.kind == .gauge) = true
  apart : m.state ∉ m.others

/-- `m'` is `m` changed beside its state gauge: its instruments sit in the
same places, and the state gauge is the same. -/
structure Beside (m m' : Meter) : Prop where
  state : m'.state = m.state
  others : m'.others = m.others
  gauge : m'.registry.instruments[m.state]? = m.registry.instruments[m.state]?

theorem Beside.refl (m : Meter) : m.Beside m := ⟨rfl, rfl, rfl⟩

theorem Beside.trans {m₁ m₂ m₃ : Meter} (h₁ : m₁.Beside m₂) (h₂ : m₂.Beside m₃) : m₁.Beside m₃ := by
  refine ⟨h₂.state.trans h₁.state, h₂.others.trans h₁.others, ?_⟩
  rw [← h₁.state, h₂.gauge, h₁.state]
  exact h₁.gauge

theorem Beside.sound {m m' : Meter} (h : m.Beside m') (hm : m.Sound) : m'.Sound :=
  ⟨by rw [h.state, h.gauge]; exact hm.gauge, by rw [h.state, h.others]; exact hm.apart⟩

theorem Beside.stateReading {m m' : Meter} (h : m.Beside m') : m'.stateReading = m.stateReading := by
  unfold Meter.stateReading
  rw [h.state, h.gauge]

theorem beside_modify (m : Meter) {k : Nat} (f : Instrument → Instrument) (hk : k ≠ m.state) :
    m.Beside (m.modify k f) :=
  ⟨rfl, rfl, by simp only [modify, Registry.modify, Array.getElem?_modify, if_neg hk]⟩

theorem Sound.beside_modify {m : Meter} (hm : m.Sound) {k : Nat} (hk : k ∈ m.others) (f : Instrument → Instrument) :
    m.Beside (m.modify k f) :=
  m.beside_modify f fun e => hm.apart (e ▸ hk)

theorem Sound.beside_observeFlush {m : Meter} (hm : m.Sound) (frames : Int) : m.Beside (m.observeFlush frames) := by
  unfold observeFlush
  split
  · exact .refl m
  · have h₁ : m.Beside (m.modify m.flushes (·.add 1.0)) := hm.beside_modify (by simp [others]) _
    exact h₁.trans ((h₁.sound hm).beside_modify (show m.flushed ∈ m.others by simp [others]) _)

theorem Sound.setState {m : Meter} (hm : m.Sound) (code : Int) :
    (m.setState code).Sound ∧ (m.setState code).stateReading = some (Float.ofInt code) := by
  obtain ⟨i, hi, hkind⟩ := hm.gauge
  -- the gauge is set in its place, so it keeps its kind and reads the code
  have hset : (m.setState code).registry.instruments[m.state]? = some { i with value := Float.ofInt code } := by
    simp [Meter.setState, Meter.modify, Registry.modify, Array.getElem?_modify, hi, Instrument.set, hkind]
  have hread : (m.setState code).stateReading = some (Float.ofInt code) := by
    rw [Meter.stateReading, show (m.setState code).state = m.state from rfl, hset]
    rfl
  exact ⟨⟨⟨_, hset, hkind⟩, hm.apart⟩, hread⟩

end Meter

/-! ## Instruments made by `Meter.create` -/

namespace Registry

/-- `r'` keeps every instrument of `r` in its place. -/
def Extends (r r' : Registry) : Prop :=
  ∀ (j : Nat) (x : Instrument), r.instruments[j]? = some x → r'.instruments[j]? = some x

theorem Extends.refl (r : Registry) : r.Extends r := fun _ _ h => h

theorem Extends.trans {r₁ r₂ r₃ : Registry} (h₁ : r₁.Extends r₂) (h₂ : r₂.Extends r₃) : r₁.Extends r₃ :=
  fun j x h => h₂ j x (h₁ j x h)

theorem register_ok {r r' : Registry} {i : Instrument} {reg : Registration} (h : r.register i = .ok (r', reg)) :
    (reg = .added r.instruments.size ∧ r' = { instruments := r.instruments.push i }) ∨
      ∃ k x, reg = .existing k ∧ r' = r ∧ r.instruments[k]? = some x ∧ x.name = i.name := by
  unfold register at h
  split at h
  · cases h
  split at h
  · rename_i k hk
    dsimp only at h
    split at h
    · cases h
    · cases h
      obtain ⟨hlt, hname, -⟩ := Array.findIdx?_eq_some_iff_getElem.1 hk
      exact .inr ⟨k, _, rfl, rfl, Array.getElem?_eq_getElem hlt, beq_iff_eq.1 hname⟩
  · cases h
    exact .inl ⟨rfl, rfl⟩

/-- The instrument in place `k` is registered under `name`. -/
def Holds (r : Registry) (k : Nat) (name : String) : Prop := ∃ x, r.instruments[k]? = some x ∧ x.name = name

theorem Holds.mono {r r' : Registry} {k : Nat} {name : String} (h : r.Holds k name) (e : r.Extends r') :
    r'.Holds k name :=
  let ⟨x, hx, hn⟩ := h
  ⟨x, e k x hx, hn⟩

theorem Holds.ne {r : Registry} {k k' : Nat} {n n' : String} (h : r.Holds k n) (h' : r.Holds k' n') (hn : n ≠ n') :
    k ≠ k' := by
  rintro rfl
  obtain ⟨x, hx, rfl⟩ := h
  obtain ⟨x', hx', rfl⟩ := h'
  rw [hx] at hx'
  exact hn (by rw [Option.some.inj hx'])

theorem extends_push (r : Registry) (i : Instrument) : r.Extends { instruments := r.instruments.push i } := by
  intro j x hj
  have hlt : j < r.instruments.size := (Array.getElem?_eq_some_iff.1 hj).1
  rw [Array.getElem?_push, if_neg (Nat.ne_of_lt hlt), hj]

end Registry

theorem claim_ok {r r' : Registry} {role : Role} {i : Instrument} {k : Nat} (h : claim r role i = .ok (r', k)) :
    r.Extends r' ∧ ∃ x, r'.instruments[k]? = some x ∧ x.name = i.name ∧ (x = i ∨ role.accepts x.kind = true) := by
  unfold claim at h
  obtain ⟨⟨r₁, reg⟩, hreg, hrest⟩ := Sim.bind_eq_ok h
  rcases Registry.register_ok hreg with ⟨rfl, rfl⟩ | ⟨k', x, rfl, rfl, hx, hname⟩
  · -- a new instrument, at the end
    cases hrest
    exact ⟨r.extends_push i, i, by simp, rfl, .inl rfl⟩
  · -- the instrument already there, if the role accepts it
    dsimp only at hrest
    split at hrest
    · rename_i hacc
      cases hrest
      obtain ⟨hlt, hget⟩ := Array.getElem?_eq_some_iff.1 hx
      rw [getElem!_pos r'.instruments k hlt, hget] at hacc
      exact ⟨.refl _, x, hx, hname, .inr hacc⟩
    · cases hrest

theorem claim_holds {r r' : Registry} {role : Role} {i : Instrument} {k : Nat} (h : claim r role i = .ok (r', k)) :
    r'.Holds k i.name :=
  let ⟨_, x, hx, hn, _⟩ := claim_ok h
  ⟨x, hx, hn⟩

theorem Meter.create_sound {r : Registry} {m : Meter} (h : Meter.create r = .ok m) : m.Sound := by
  unfold Meter.create at h
  obtain ⟨⟨r₁, kState⟩, c₁, h⟩ := Sim.bind_eq_ok h
  obtain ⟨⟨r₂, kFrame⟩, c₂, h⟩ := Sim.bind_eq_ok h
  obtain ⟨⟨r₃, kActive⟩, c₃, h⟩ := Sim.bind_eq_ok h
  obtain ⟨⟨r₄, kStep⟩, c₄, h⟩ := Sim.bind_eq_ok h
  obtain ⟨⟨r₅, kFlushes⟩, c₅, h⟩ := Sim.bind_eq_ok h
  obtain ⟨⟨r₆, kFlushed⟩, c₆, h⟩ := Sim.bind_eq_ok h
  obtain ⟨⟨r₇, kFailures⟩, c₇, h⟩ := Sim.bind_eq_ok h
  obtain ⟨⟨r₈, kRuns⟩, c₈, h⟩ := Sim.bind_eq_ok h
  cases h
  -- every claim keeps the instruments found before it
  have E₇ : r₇.Extends r₈ := (claim_ok c₈).1
  have E₆ : r₆.Extends r₈ := (claim_ok c₇).1.trans E₇
  have E₅ : r₅.Extends r₈ := (claim_ok c₆).1.trans E₆
  have E₄ : r₄.Extends r₈ := (claim_ok c₅).1.trans E₅
  have E₃ : r₃.Extends r₈ := (claim_ok c₄).1.trans E₄
  have E₂ : r₂.Extends r₈ := (claim_ok c₃).1.trans E₃
  have E₁ : r₁.Extends r₈ := (claim_ok c₂).1.trans E₂
  refine ⟨?_, ?_⟩
  · -- the state gauge is the gauge claimed, or one the gauge role accepts
    obtain ⟨x, hx, -, hk⟩ := (claim_ok c₁).2
    refine ⟨x, E₁ _ _ hx, ?_⟩
    rcases hk with rfl | hacc
    · rfl
    · exact hacc
  · have H := (claim_holds c₁).mono E₁
    simp only [Meter.others, List.mem_cons, List.not_mem_nil, or_false]
    rintro (h | h | h | h | h | h | h)
    · exact H.ne ((claim_holds c₂).mono E₂) (by simp [instrument]) h
    · exact H.ne ((claim_holds c₃).mono E₃) (by simp [instrument]) h
    · exact H.ne ((claim_holds c₄).mono E₄) (by simp [instrument]) h
    · exact H.ne ((claim_holds c₅).mono E₅) (by simp [instrument]) h
    · exact H.ne ((claim_holds c₆).mono E₆) (by simp [instrument]) h
    · exact H.ne ((claim_holds c₇).mono E₇) (by simp [instrument]) h
    · exact H.ne (claim_holds c₈) (by simp [instrument]) h

end Multibody.Observe

namespace Multibody.Sim

open Observe

variable {τ σ : Type}

namespace Lab

/-- The simulator's instruments, where it has them, are sound. -/
def MeterSound (lab : Lab τ σ) : Prop := ∀ m, lab.sim.meter = some m → m.Sound

/-- The simulator's instruments, where it has them, are sound, and their
state gauge reads the simulator's state. -/
def GaugeTracks (lab : Lab τ σ) : Prop :=
  ∀ m, lab.sim.meter = some m → m.Sound ∧ m.stateReading = some (Float.ofInt lab.sim.state.code)

theorem GaugeTracks.meterSound {lab : Lab τ σ} (h : lab.GaugeTracks) : lab.MeterSound := fun m hm => (h m hm).1

/-- `y` is `x` changed beside the simulator's state and its state gauge: the
state is the same, and the instruments are those of `x` changed beside the
state gauge, where `x`'s are sound. -/
structure GaugeFrame (x y : Lab τ σ) : Prop where
  state : y.sim.state = x.sim.state
  meter : ∀ m', y.sim.meter = some m' → ∃ m, x.sim.meter = some m ∧ (m.Sound → m.Beside m')

namespace GaugeFrame

variable {x y z : Lab τ σ}

theorem of_eq (hs : y.sim.state = x.sim.state) (hm : y.sim.meter = x.sim.meter) : GaugeFrame x y :=
  ⟨hs, fun m' h => ⟨m', hm ▸ h, fun _ => .refl m'⟩⟩

theorem refl (x : Lab τ σ) : GaugeFrame x x := of_eq rfl rfl

theorem trans (h₁ : GaugeFrame x y) (h₂ : GaugeFrame y z) : GaugeFrame x z := by
  refine ⟨h₂.state.trans h₁.state, fun m₃ hz => ?_⟩
  obtain ⟨m₂, hy, hb₂⟩ := h₂.meter m₃ hz
  obtain ⟨m₁, hx, hb₁⟩ := h₁.meter m₂ hy
  exact ⟨m₁, hx, fun hs => (hb₁ hs).trans (hb₂ ((hb₁ hs).sound hs))⟩

theorem tracks (hf : GaugeFrame x y) (h : x.GaugeTracks) : y.GaugeTracks := by
  intro m' hm'
  obtain ⟨m, hm, hb⟩ := hf.meter m' hm'
  obtain ⟨hs, hr⟩ := h m hm
  exact ⟨(hb hs).sound hs, by rw [(hb hs).stateReading, hr, hf.state]⟩

theorem sound (hf : GaugeFrame x y) (h : x.MeterSound) : y.MeterSound := by
  intro m' hm'
  obtain ⟨m, hm, hb⟩ := hf.meter m' hm'
  exact (hb (h m hm)).sound (h m hm)

theorem foldl {α : Type} (f : Lab τ σ → α → Lab τ σ) (hf : ∀ l a, GaugeFrame l (f l a)) :
    ∀ (as : List α) (lab : Lab τ σ), GaugeFrame lab (as.foldl f lab)
  | [], lab => refl lab
  | a :: as, lab => (hf lab a).trans (foldl f hf as (f lab a))

end GaugeFrame

variable (lab : Lab τ σ)

theorem gaugeFrame_measure {f : Meter → Meter} (hf : ∀ m : Meter, m.Sound → m.Beside (f m)) :
    GaugeFrame lab (lab.measure f) := by
  refine ⟨rfl, fun m' hm' => ?_⟩
  obtain ⟨m, hm, rfl⟩ := Option.map_eq_some_iff.1 hm'
  exact ⟨m, hm, hf m⟩

theorem gaugeTracks_setState {lab : Lab τ σ} (h : lab.MeterSound) (st : SimState) : (lab.setState st).GaugeTracks := by
  intro m' hm'
  obtain ⟨m, hm, rfl⟩ := Option.map_eq_some_iff.1 hm'
  exact (h m hm).setState st.code

theorem gaugeFrame_withAssembly (a : Assembly) : GaugeFrame lab (lab.withAssembly a) := .of_eq rfl rfl

theorem gaugeFrame_trace (span : Span) : GaugeFrame lab (lab.trace span) := .of_eq rfl rfl

theorem gaugeFrame_modifySim {f : Simulator τ → Simulator τ} (hs : ∀ s, (f s).state = s.state)
    (hm : ∀ s, (f s).meter = s.meter) : GaugeFrame lab (lab.modifySim f) :=
  .of_eq (hs lab.sim) (hm lab.sim)

/-! ## The stages of a step -/

theorem gaugeFrame_freeze (k : Nat) : GaugeFrame lab (lab.freeze k) := by
  unfold freeze
  dsimp only
  split <;> exact .of_eq rfl rfl

theorem gaugeFrame_driveController (env : Control.Env) (idx : Nat) :
    GaugeFrame lab (lab.driveController env idx).1 := by
  unfold driveController
  dsimp only
  split
  · exact .of_eq rfl rfl
  · split <;> exact .of_eq rfl rfl

theorem gaugeFrame_stopSlot (k si : Nat) (f : Failure) : GaugeFrame lab (lab.stopSlot k si f) := by
  unfold stopSlot
  dsimp only
  split
  · -- the failure is counted beside the state gauge
    refine GaugeFrame.trans ?_ (gaugeFrame_measure _ fun m hm => hm.beside_modify (by simp [Meter.others]) _)
    refine GaugeFrame.trans ?_ (gaugeFrame_freeze _ k)
    exact .of_eq rfl rfl
  · exact .of_eq rfl rfl

theorem gaugeFrame_runSlot (env : Control.Env) (k : Nat) (sb : SimBody) (si : Nat) :
    GaugeFrame lab (runSlot env k sb lab si) := by
  unfold runSlot
  dsimp only
  split
  · exact .refl lab
  · have h := lab.gaugeFrame_driveController env (sb.slots[si]!).controller
    split <;> rename_i lab' _ heq <;> rw [heq] at h
    · exact h
    · exact h.trans (gaugeFrame_stopSlot _ _ _ _)

theorem gaugeFrame_runControllers (k : Nat) : GaugeFrame lab (lab.runControllers k) := by
  unfold runControllers
  dsimp only
  refine GaugeFrame.trans ?_ (GaugeFrame.foldl _ (fun l si => gaugeFrame_runSlot l _ k _ si) _ _)
  split <;> exact .of_eq rfl rfl

theorem gaugeFrame_runAllControllers : GaugeFrame lab lab.runAllControllers :=
  GaugeFrame.foldl _ gaugeFrame_runControllers _ _

theorem gaugeFrame_clearForces : GaugeFrame lab lab.clearForces := by
  unfold clearForces
  rw [← Array.foldl_toList]
  apply GaugeFrame.foldl
  exact fun _ _ => .of_eq rfl rfl

theorem gaugeFrame_forceLapsed (now : Float) (f : ForceCommand) : GaugeFrame lab (lab.forceLapsed now f).1 := by
  unfold forceLapsed
  split
  · split <;> exact .of_eq rfl rfl
  · exact .refl lab

theorem gaugeFrame_applyForce (now : Float) (f : ForceCommand) : GaugeFrame lab (lab.applyForce now f) := by
  unfold applyForce
  dsimp only
  split
  · exact .refl lab
  · split
    · exact .refl lab
    · split
      · exact .refl lab
      · have h := lab.gaugeFrame_forceLapsed now f
        split <;> rename_i heq <;> rw [heq] at h
        · exact h
        · exact h.trans (.of_eq rfl rfl)

theorem gaugeFrame_applyString (s : StringCommand) : GaugeFrame lab (lab.applyString s) := by
  unfold applyString
  dsimp only
  split
  · exact .refl lab
  · split
    · exact .refl lab
    · split <;> exact .of_eq rfl rfl

theorem gaugeFrame_applyPerturbations (p : Perturbations) : GaugeFrame lab (lab.applyPerturbations p) := by
  unfold applyPerturbations
  dsimp only
  rw [← Array.foldl_toList, ← Array.foldl_toList]
  exact (GaugeFrame.foldl _ (fun l f => gaugeFrame_applyForce l _ f) _ _).trans
    (GaugeFrame.foldl _ gaugeFrame_applyString _ _)

theorem gaugeFrame_holdForcedPose (fp : ForcedPose) : GaugeFrame lab (lab.holdForcedPose fp) := by
  unfold holdForcedPose
  dsimp only
  split
  · exact .refl lab
  · split
    · exact .refl lab
    · split <;> exact .of_eq rfl rfl

theorem gaugeFrame_holdForcedPoses (p : Perturbations) : GaugeFrame lab (lab.holdForcedPoses p) := by
  unfold holdForcedPoses
  rw [← Array.foldl_toList]
  exact GaugeFrame.foldl _ gaugeFrame_holdForcedPose _ _

theorem gaugeFrame_queryDetector (d : Detector) : GaugeFrame lab (lab.queryDetector d).1 := by
  unfold queryDetector
  split <;> exact .of_eq rfl rfl

theorem gaugeFrame_useContacts (pairs : Array LinkPair) : GaugeFrame lab (lab.useContacts pairs) := by
  unfold useContacts
  dsimp only
  split <;> exact .of_eq rfl rfl

theorem gaugeFrame_detectCollisions : GaugeFrame lab lab.detectCollisions := by
  unfold detectCollisions
  split
  · exact .refl lab
  · rename_i d _
    have h := lab.gaugeFrame_queryDetector d
    split
    rename_i heq
    rw [heq] at h
    exact h.trans (gaugeFrame_useContacts _ _)

theorem gaugeFrame_advance : GaugeFrame lab lab.advance.1 := by
  unfold advance
  split
  · exact .refl lab
  · dsimp only
    split <;> exact .of_eq rfl rfl

theorem gaugeFrame_bufferAll : GaugeFrame lab lab.bufferAll := by
  unfold bufferAll
  dsimp only
  apply GaugeFrame.foldl
  exact fun _ _ => .of_eq rfl rfl

theorem gaugeFrame_flush : GaugeFrame lab lab.flush := by
  have hfold := foldl_keeps (fun acc : Lab τ σ × Nat × Int => (acc.1.sim.state, acc.1.sim.meter)) (flushBody lab.run)
    (fun acc k => by
      unfold flushBody
      dsimp only
      split <;> rfl) (List.range lab.run.bodies.size) (lab, 0, -1)
  unfold flush
  dsimp only at hfold ⊢
  -- name the fold's result, so that each branch reads its lab directly
  rcases hf : (List.range lab.run.bodies.size).foldl (flushBody lab.run) (lab, 0, -1) with ⟨l, total, last⟩
  rw [hf] at hfold
  dsimp only at hfold ⊢
  have hl : GaugeFrame lab l := .of_eq (congrArg Prod.fst hfold) (congrArg Prod.snd hfold)
  split
  · exact hl
  · refine hl.trans (GaugeFrame.trans (gaugeFrame_measure _ fun m hm => hm.beside_observeFlush total) ?_)
    exact .of_eq rfl rfl

theorem gaugeFrame_completeStep (h : Handlers τ σ) : GaugeFrame lab (lab.completeStep h) := by
  have hflush : ∀ l : Lab τ σ, GaugeFrame lab l → GaugeFrame lab (if h.flushAfter l then l.flush else l) := by
    intro l hl
    split
    · exact hl.trans (gaugeFrame_flush l)
    · exact hl
  unfold completeStep
  dsimp only
  apply hflush
  refine GaugeFrame.trans ?_ (gaugeFrame_measure _ fun m hm => hm.beside_modify (by simp [Meter.others]) _)
  refine GaugeFrame.trans ?_ (gaugeFrame_bufferAll _)
  exact .of_eq rfl rfl

/-! ## The stages of a setup -/

theorem gaugeFrame_applyStates (pairs : List (Nat × BodyId)) : GaugeFrame lab (lab.applyStates pairs) := by
  unfold applyStates
  apply GaugeFrame.foldl
  intro l p
  obtain ⟨i, c⟩ := p
  dsimp only
  split
  · split <;> exact .of_eq rfl rfl
  · exact .refl l

theorem gaugeFrame_initController (cfg : Config) (clone : BodyId) (att : Attachment) :
    GaugeFrame lab (initController cfg clone att lab).1 := by
  unfold initController
  split <;> exact .of_eq rfl rfl

theorem gaugeFrame_prepareSlots (cfg : Config) (bi : BodyItem) (clone : BodyId) :
    ∀ (atts : List Attachment) (lab : Lab τ σ) (slots : Array ControllerSlot),
      GaugeFrame lab (prepareSlots cfg bi clone atts lab slots).1
  | [], lab, _ => .refl lab
  | att :: rest, lab, slots => by
    have hinit := lab.gaugeFrame_initController cfg clone att
    unfold prepareSlots
    dsimp only
    split
    · split <;> exact hinit.trans (.of_eq rfl rfl)
    · exact hinit.trans (gaugeFrame_prepareSlots cfg bi clone rest _ _)

theorem gaugeFrame_prepareBodies (cfg : Config) :
    ∀ (pairs : List (Nat × BodyId)) (lab : Lab τ σ) (bodies : Array SimBody),
      GaugeFrame lab (prepareBodies cfg pairs lab bodies).1
  | [], lab, _ => .refl lab
  | (i, c) :: rest, lab, bodies => by
    have hprep := gaugeFrame_prepareSlots cfg (lab.items.getD i default) c
      (lab.items.getD i default).controllers.toList lab #[]
    unfold prepareBodies prepareControllers
    split
    · rename_i heq
      rw [heq] at hprep
      exact hprep.trans (.of_eq rfl rfl)
    · rename_i lab₁ heq
      rw [heq] at hprep
      exact hprep.trans (gaugeFrame_prepareBodies cfg rest lab₁ bodies)
    · rename_i lab₁ slots heq
      rw [heq] at hprep
      exact hprep.trans (gaugeFrame_prepareBodies cfg rest lab₁ _)

theorem gaugeFrame_resolveDetector : GaugeFrame lab lab.resolveDetector := by
  unfold resolveDetector
  dsimp only
  split
  · exact .refl lab
  · split
    · exact .refl lab
    · split <;> exact .of_eq rfl rfl

theorem gaugeFrame_openRecordings (reset : Bool) (capacity : Int) (bodies : Array SimBody) :
    GaugeFrame lab (lab.openRecordings reset capacity bodies) := by
  unfold openRecordings
  rw [← Array.foldl_toList]
  apply GaugeFrame.foldl
  exact fun _ _ => .of_eq rfl rfl

theorem gaugeFrame_launch (cfg : Config) (backend : Dynamics.Backend) (reset : Bool) (startFrame : Int)
    (bodies : Array SimBody) : GaugeFrame lab (lab.launch cfg backend reset startFrame bodies).1 := by
  unfold launch
  dsimp only
  -- whether the engine answered, and whether it accepted the run
  split
  all_goals
    split
    · exact .of_eq rfl rfl
    · refine GaugeFrame.trans ?_ (gaugeFrame_measure _ fun m hm => hm.beside_modify (by simp [Meter.others]) _)
      refine GaugeFrame.trans ?_ (gaugeFrame_modifySim _ (fun _ => rfl) fun _ => rfl)
      refine GaugeFrame.trans ?_ (gaugeFrame_openRecordings _ reset _ bodies)
      exact .of_eq rfl rfl

theorem gaugeFrame_setupWith (cfg : Config) (backend : Dynamics.Backend) (reset : Bool) :
    GaugeFrame lab (lab.setupWith cfg backend reset).1 := by
  have hbodies : ∀ (pairs : List (Nat × BodyId)) (l l' : Lab τ σ) (x : Except Failure (Array SimBody)),
      prepareBodies cfg pairs l #[] = (l', x) → GaugeFrame l l' := fun pairs l l' x he => by
    have h := gaugeFrame_prepareBodies cfg pairs l #[]
    rwa [he] at h
  unfold setupWith
  dsimp only
  split
  · exact .of_eq rfl rfl
  · split
    all_goals
      rename_i lab₂ _ heqp
      -- up to the controllers, the clones are made and placed: the assembly changes
      have hprep : GaugeFrame lab lab₂ := by
        refine GaugeFrame.trans ?_ (hbodies _ _ _ _ heqp)
        refine GaugeFrame.trans ?_ (gaugeFrame_withAssembly _ _)
        split
        · exact .of_eq rfl rfl
        · refine GaugeFrame.trans ?_ (gaugeFrame_applyStates _ _)
          exact .of_eq rfl rfl
    · exact hprep
    · refine GaugeFrame.trans ?_ (gaugeFrame_launch _ _ _ _ _ _)
      refine GaugeFrame.trans ?_ (gaugeFrame_resolveDetector _)
      exact hprep.trans (gaugeFrame_modifySim _ (fun _ => rfl) fun _ => rfl)

theorem gaugeFrame_setup (reset : Bool) : GaugeFrame lab (lab.setup reset).1 := by
  unfold setup
  dsimp only
  split
  · exact .refl lab
  · exact .refl lab
  · split
    · exact gaugeFrame_setupWith _ _ _ _
    · exact .refl lab

/-! ## The end of a run -/

theorem gaugeTracks_closeRun {l : Lab τ σ} (hs : l.MeterSound) (r : Run) (finish : FinishInfo) :
    (closeRun l r finish).GaugeTracks := by
  have hidle : ∀ l' : Lab τ σ, GaugeFrame l l' → (l'.setState .idle).GaugeTracks :=
    fun l' hl => gaugeTracks_setState (hl.sound hs) .idle
  unfold closeRun
  dsimp only
  split
  · refine (gaugeFrame_trace _ _).tracks ?_
    refine (gaugeFrame_measure _ fun m hm => hm.beside_modify (by simp [Meter.others]) _).tracks ?_
    exact hidle _ (.of_eq rfl rfl)
  · refine (gaugeFrame_measure _ fun m hm => hm.beside_modify (by simp [Meter.others]) _).tracks ?_
    exact hidle _ (.of_eq rfl rfl)

end Lab

/-- Hooks and observers that keep the gauge reading the state: they may
pause and restart the run, or leave state and gauge alone. -/
structure Handlers.KeepsGauge (h : Handlers τ σ) : Prop where
  hook : ∀ id task (lab : Lab τ σ), lab.GaugeTracks → (h.hook id task lab).1.GaugeTracks
  event : ∀ ev (lab : Lab τ σ), lab.GaugeTracks → (h.event ev lab).GaugeTracks

namespace Lab

variable {h : Handlers τ σ} {lab : Lab τ σ}

theorem GaugeTracks.beginStep (hh : h.KeepsGauge) (ht : lab.GaugeTracks) : (lab.beginStep h).GaugeTracks := by
  unfold Lab.beginStep
  dsimp only
  split
  · -- a rebuilt active list is reported beside the state gauge, then announced
    apply hh.event
    refine GaugeFrame.tracks ?_ ht
    refine GaugeFrame.trans ?_ (gaugeFrame_measure _ fun m hm => hm.beside_modify (by simp [Meter.others]) _)
    exact .of_eq rfl rfl
  · exact ht

theorem GaugeTracks.runPhase (hh : h.KeepsGauge) (ht : lab.GaugeTracks) (ph : Phase) :
    (lab.runPhase h ph).1.GaugeTracks :=
  lab.runPhase_preserves GaugeTracks hh.hook ph ht

theorem GaugeTracks.step (hh : h.KeepsGauge) (ht : lab.GaugeTracks) : (lab.step h).1.GaugeTracks := by
  rcases step_cases_by GaugeTracks (fun _ hx => hx.beginStep hh) (fun x hx => (gaugeFrame_clearForces x).tracks hx)
      (fun x p hx => (gaugeFrame_applyPerturbations x p).tracks hx)
      (fun x p hx => (gaugeFrame_holdForcedPoses x p).tracks hx)
      (fun x hx => (gaugeFrame_runAllControllers x).tracks hx) (fun _ ph hx => hx.runPhase hh ph)
      (fun x hx => (gaugeFrame_detectCollisions x).tracks hx) (fun x hx => (gaugeFrame_advance x).tracks hx) ht
    with ⟨-, hs⟩ | ⟨mid, hmid, heq⟩
  · exact hs
  · rw [heq]
    exact (gaugeFrame_completeStep mid h).tracks hmid

theorem GaugeTracks.holdRun (hh : h.KeepsGauge) (ht : lab.GaugeTracks) : (lab.holdRun h).1.GaugeTracks := by
  have hflush := (gaugeFrame_flush lab).tracks ht
  unfold Lab.holdRun
  dsimp only
  split
  · exact hh.event _ _ hflush
  · exact hh.event _ _ (hh.event _ _ hflush)

theorem GaugeTracks.loop (hh : h.KeepsGauge) (fuel : Nat) (ht : lab.GaugeTracks) : (loop h fuel lab).1.GaugeTracks :=
  loop_induction GaugeTracks (fun _ hx => hx.step hh) (fun _ hx => hx.holdRun hh)
    (fun x hx => (gaugeFrame_measure x fun m hm => hm.beside_modify (by simp [Meter.others]) _).tracks hx) fuel lab ht

theorem GaugeTracks.teardown (hh : h.KeepsGauge) (hs : lab.MeterSound) (finish : FinishInfo) :
    (lab.teardown h finish).GaugeTracks := by
  rw [teardown_eq]
  exact hh.event _ _ (gaugeTracks_closeRun ((gaugeFrame_flush lab).sound hs) _ _)

theorem GaugeTracks.pause (ht : lab.GaugeTracks) : lab.pause.1.GaugeTracks := by
  unfold Lab.pause
  split
  · exact gaugeTracks_setState ht.meterSound .paused
  · exact ht

theorem GaugeTracks.restart (ht : lab.GaugeTracks) : lab.restart.1.GaugeTracks := by
  unfold Lab.restart
  split
  · exact gaugeTracks_setState ht.meterSound .running
  · exact ht

/-- A start either fails, changing the lab only beside the state and its
gauge, or goes through: the state is set to running with its gauge, the run
keeps the gauge reading the state, and its end sets both to idle. -/
theorem start_gauge (hh : h.KeepsGauge) (hs : lab.MeterSound) (fuel : Nat) (reset : Bool) :
    ((lab.start h fuel reset).2.isSome ∧ GaugeFrame lab (lab.start h fuel reset).1) ∨
      ((lab.start h fuel reset).2 = none ∧ (lab.start h fuel reset).1.GaugeTracks) := by
  have hsetup := gaugeFrame_setup lab reset
  unfold start
  split
  · exact .inl ⟨rfl, .refl lab⟩
  dsimp only
  split
  · rename_i l f heq
    rw [heq] at hsetup
    exact .inl ⟨rfl, hsetup.trans (gaugeFrame_trace _ _)⟩
  · rename_i l heq
    rw [heq] at hsetup
    refine .inr ⟨rfl, ?_⟩
    refine GaugeTracks.teardown hh (GaugeTracks.loop hh fuel (hh.event _ _ (gaugeTracks_setState ?_ .running))).meterSound _
    -- what the setup did and the run's span leave the instruments sound
    refine GaugeFrame.sound ?_ hs
    refine GaugeFrame.trans ?_ (gaugeFrame_trace _ _)
    refine hsetup.trans ?_
    split
    · exact .of_eq rfl rfl
    · exact .refl l

theorem GaugeTracks.start (hh : h.KeepsGauge) (ht : lab.GaugeTracks) (fuel : Nat) (reset : Bool) :
    (lab.start h fuel reset).1.GaugeTracks := by
  rcases start_gauge hh ht.meterSound fuel reset with ⟨-, hf⟩ | ⟨-, hok⟩
  · exact hf.tracks ht
  · exact hok

theorem gaugeTracks_start_of_ok (hh : h.KeepsGauge) (hs : lab.MeterSound) {fuel : Nat} {reset : Bool}
    (hok : (lab.start h fuel reset).2 = none) : (lab.start h fuel reset).1.GaugeTracks := by
  rcases start_gauge hh hs fuel reset with ⟨hf, -⟩ | ⟨-, ht⟩
  · rw [hok] at hf
    cases hf
  · exact ht

/-! ## Calls of a driver -/

section Calls

variable (lab : Lab τ σ)

theorem gaugeFrame_setActive (k : Nat) (on : Bool) : GaugeFrame lab (lab.setActive k on) := by
  unfold setActive
  split
  · split <;> exact .of_eq rfl rfl
  · exact .refl lab

theorem gaugeFrame_setConfig (cfg : Config) : GaugeFrame lab (lab.setConfig cfg).1 := by
  unfold setConfig
  split <;> exact .of_eq rfl rfl

theorem gaugeFrame_restore (a : Archive) : GaugeFrame lab (lab.restore a).1 := by
  unfold restore
  split
  · exact .refl lab
  · split
    · exact .refl lab
    · exact gaugeFrame_setConfig _ _

theorem gaugeFrame_addHook (phase : Phase) (task : τ) : GaugeFrame lab (lab.addHook phase task).1 := by
  unfold addHook
  cases phase <;> exact .of_eq rfl rfl

theorem gaugeFrame_removeHook (phase : Phase) (id : Nat) : GaugeFrame lab (lab.removeHook phase id) := by
  unfold removeHook
  cases phase <;> exact .of_eq rfl rfl

end Calls

end Lab

end Multibody.Sim

namespace Multibody.Api.Stage

open Sim Lab

theorem gaugeFrame_modifySession (lab : Stage) (f : Session → Session) : GaugeFrame lab (modifySession lab f) :=
  .of_eq rfl rfl

theorem gaugeFrame_record (lab : Stage) (label : String) (v : Json) : GaugeFrame lab (record lab label v) :=
  .of_eq rfl rfl

theorem gaugeFrame_onLive (lab : Stage) (item : Option Nat) (f : Assembly → BodyId → Assembly) :
    GaugeFrame lab (onLive lab item f) := by
  unfold onLive
  split <;> exact .of_eq rfl rfl

theorem sim_observeSet (lab : Stage) (k : Nat) : (observeSet lab k).1.sim = lab.sim := by
  unfold observeSet
  split
  · rename_i set _
    split
    · dsimp only
      rw [← Array.forIn_toList]
      generalize hr : (forIn set.metrics.toList (none, lab.assembly, #[]) _ :
        Id (Option (Stage × Option String) × Assembly × Array Metric)) = r
      -- an observation that fails answers the lab with the assembly reached so far
      have hkeep : ∀ q, r.1 = some q → q.1.sim = lab.sim := by
        rw [← hr]
        refine forIn_keeps (fun s : Option (Stage × Option String) × Assembly × Array Metric =>
          ∀ q, s.1 = some q → q.1.sim = lab.sim) _ ?_ _ _ fun q h => by cases h
        rintro m ⟨ret, a, ms⟩ -
        dsimp only
        split
        · exact fun q h => by cases h
        · rintro q ⟨⟩
          rfl
      rcases r with ⟨_ | q, a, ms⟩
      · rfl
      · exact hkeep q rfl
    · rfl
  · rfl

theorem gaugeTracks_perform (act : Action) {lab : Stage} (ht : lab.GaugeTracks) : (perform act lab).1.GaugeTracks := by
  obtain ⟨label, command, item, frame?, every, phase⟩ := act
  cases command with
  | pause => exact (gaugeFrame_record _ _ _).tracks ht.pause
  | restart => exact (gaugeFrame_record _ _ _).tracks ht.restart
  | activate on =>
    refine GaugeFrame.tracks ?_ ht
    unfold perform
    dsimp only
    split
    · exact gaugeFrame_setActive _ _ _
    · exact gaugeFrame_record _ _ _
  | setTimeStep dt => exact ((gaugeFrame_setConfig lab _).trans (gaugeFrame_record _ _ _)).tracks ht
  | setConfig patch => exact ((gaugeFrame_setConfig lab _).trans (gaugeFrame_record _ _ _)).tracks ht
  | restore text =>
    refine GaugeFrame.tracks ?_ ht
    unfold perform
    dsimp only
    split
    · exact gaugeFrame_record _ _ _
    · split
      · exact gaugeFrame_record _ _ _
      · exact (gaugeFrame_restore lab _).trans (gaugeFrame_record _ _ _)
  | thrust v => exact (gaugeFrame_onLive lab _ _).tracks ht
  | device index on values notify =>
    refine GaugeFrame.tracks ?_ ht
    unfold perform
    dsimp only
    refine (gaugeFrame_onLive lab item fun a b => setDevice a b index on values).trans ?_
    split
    · split <;> exact .of_eq rfl rfl
    · exact .refl _
  | setJoint j q dq u => exact (gaugeFrame_onLive lab _ _).tracks ht
  | setControl u =>
    refine GaugeFrame.tracks ?_ ht
    unfold perform
    dsimp only
    rw [← Array.foldl_toList]
    apply GaugeFrame.foldl
    exact fun _ _ => .of_eq rfl rfl
  | addCounter name phase =>
    refine GaugeFrame.tracks ?_ ht
    unfold perform
    dsimp only
    refine GaugeFrame.trans ?_ (gaugeFrame_modifySession _ _)
    refine GaugeFrame.trans ?_ (gaugeFrame_addHook _ _ _)
    exact gaugeFrame_modifySession _ _
  | removeCounter name =>
    refine GaugeFrame.tracks ?_ ht
    unfold perform
    dsimp only
    split
    · refine GaugeFrame.trans ?_ (gaugeFrame_removeHook _ _ _)
      exact gaugeFrame_modifySession _ _
    · exact .refl lab
  | removeHook phase id =>
    refine GaugeFrame.tracks ?_ ht
    unfold perform
    dsimp only
    split
    · exact .refl lab
    · exact gaugeFrame_removeHook _ _ _
  | _ => exact (GaugeFrame.of_eq rfl rfl).tracks ht

theorem gaugeTracks_performDue :
    ∀ (acts : List Action) (lab : Stage), lab.GaugeTracks → (performDue acts lab).1.GaugeTracks
  | [], _, ht => ht
  | act :: rest, lab, ht => by
    unfold performDue
    split
    · have h := gaugeTracks_perform act ht
      split <;> rename_i heq <;> rw [heq] at h
      · exact h
      · exact gaugeTracks_performDue rest _ h
    · exact gaugeTracks_performDue rest lab ht

theorem gaugeTracks_runTask (id : Nat) (task : Task) {lab : Stage} (ht : lab.GaugeTracks) :
    (runTask id task lab).1.GaugeTracks := by
  cases task with
  | actions list => exact gaugeTracks_performDue list lab ht
  | rotors =>
    refine GaugeFrame.tracks ?_ ht
    unfold runTask applyRotors
    dsimp only
    rw [← Array.foldl_toList]
    apply GaugeFrame.foldl
    intro l k
    split <;> exact .of_eq rfl rfl
  | stepLimit limit =>
    refine GaugeFrame.tracks ?_ ht
    unfold runTask
    dsimp only
    split <;> exact .of_eq rfl rfl
  | counter name => exact (gaugeFrame_modifySession _ _).tracks ht
  | metrics k =>
    have hsim := sim_observeSet lab k
    exact (GaugeFrame.of_eq (congrArg Simulator.state hsim) (congrArg Simulator.meter hsim)).tracks ht

theorem gaugeTracks_observe (ev : Event) {lab : Stage} (ht : lab.GaugeTracks) : (observe ev lab).GaugeTracks := by
  obtain ⟨kind, frame, time, finish, active⟩ := ev
  cases kind with
  | paused =>
    unfold observe
    dsimp only
    split
    · exact (GaugeFrame.of_eq rfl rfl).tracks ht
    · exact (gaugeFrame_modifySession _ _).tracks ht.restart
  | _ => exact (gaugeFrame_modifySession _ _).tracks ht

theorem handlers_keepsGauge : handlers.KeepsGauge :=
  ⟨fun id task _ ht => gaugeTracks_runTask id task ht, fun ev _ ht => gaugeTracks_observe ev ht⟩

end Multibody.Api.Stage

namespace Multibody.Sim

variable {τ σ : Type}

/-- The state gauge follows the simulator's state, for a driver whose hooks
and observers keep it so (they may pause and restart the run).  The
instruments `Meter.create` makes are sound; on sound instruments, a pause, a
restart, every step of a run, and a whole start (a failed one, or a run with
its end) keep the gauge reading the state, and a start that goes through
leaves it reading the state whatever it read before. -/
structure StateGaugeFollows (h : Handlers τ σ) : Prop where
  created : ∀ (r : Observe.Registry) (m : Observe.Meter), Observe.Meter.create r = .ok m → m.Sound
  pause : ∀ lab : Lab τ σ, lab.GaugeTracks → lab.pause.1.GaugeTracks
  restart : ∀ lab : Lab τ σ, lab.GaugeTracks → lab.restart.1.GaugeTracks
  step : ∀ lab : Lab τ σ, lab.GaugeTracks → (lab.step h).1.GaugeTracks
  start : ∀ (fuel : Nat) (reset : Bool) (lab : Lab τ σ), lab.GaugeTracks → (lab.start h fuel reset).1.GaugeTracks
  resync : ∀ (fuel : Nat) (reset : Bool) (lab : Lab τ σ), lab.MeterSound → (lab.start h fuel reset).2 = none →
    (lab.start h fuel reset).1.GaugeTracks

/-- A session of the default settings over fresh instruments whose state
gauge was set to paused before the session took them. -/
def presetGaugeSession : Except String (App.Session Empty Unit) := do
  let m ← Observe.Meter.create {}
  App.Session.create {} (some (m.setState SimState.paused.code)) none ()

theorem preset_gauge_misreads_idle_session :
    ∃ s, presetGaugeSession = .ok s ∧ s.rig.sim.state = .idle ∧
      s.rig.sim.meter.map Observe.Meter.stateReading = some (some (Float.ofInt SimState.paused.code)) ∧
      ¬ s.rig.GaugeTracks := by
  have hstate : (presetGaugeSession.toOption.map fun s => s.rig.sim.state.code) = some 0 := by
    decide +kernel
  have hread : (presetGaugeSession.toOption.map fun s => s.rig.sim.meter.map Observe.Meter.stateReading) =
      some (some (some (Float.ofInt SimState.paused.code))) := by
    decide +kernel
  cases h : presetGaugeSession with
  | error e =>
    rw [h] at hstate
    exact absurd hstate (by simp [Except.toOption])
  | ok s =>
    rw [h] at hstate hread
    simp only [Except.toOption, Option.map_some, Option.some.injEq] at hstate hread
    have hidle : s.rig.sim.state = .idle := by
      cases hs : s.rig.sim.state <;> simp_all [SimState.code]
    refine ⟨s, rfl, hidle, hread, fun ht => ?_⟩
    -- tracking would make the gauge read idle's code
    obtain ⟨m, hm, hr⟩ := Option.map_eq_some_iff.1 hread
    have hgauge := (ht m hm).2
    rw [hr, hstate] at hgauge
    exact absurd (congrArg (Option.map Float.toBits) hgauge) (by decide +kernel)

end Multibody.Sim
