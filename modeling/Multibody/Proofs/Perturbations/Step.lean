import Multibody.Proofs.Perturbations.Forced
import Multibody.Proofs.Control.Calls

/-!
# The perturbations of a step

A step clears the external wrenches of the active bodies, applies the
perturbation table and holds its forced poses before the controllers start
(`Lab.controllersStart`), and holds the poses again after the engine step
(`Lab.step_eq_throughEngine`).  On a lab of distinct indexed clones
(`Lab.IndexedRun`) with handlers that keep it as built,
`Lab.actsInStep` says what every link carries then.
-/

namespace Multibody

namespace Assembly

/-- An assembly as built: its bodies and its links with their motion set
aside. -/
def asBuilt (a : Assembly) : Array Body × (LinkId → Link) := (a.bodies, fun l => (a.link l).withoutMotion)

variable {a a' : Assembly}

theorem asBuilt_eq_iff : a'.asBuilt = a.asBuilt ↔
    a'.bodies = a.bodies ∧ ∀ l, (a'.link l).withoutMotion = (a.link l).withoutMotion := by
  simp only [asBuilt, Prod.mk.injEq, funext_iff]

theorem asBuilt_modifyLink {f : Link → Link} (hf : ∀ lk, (f lk).withoutMotion = lk.withoutMotion) (j : LinkId) :
    (a.modifyLink j f).asBuilt = a.asBuilt :=
  asBuilt_eq_iff.2 ⟨rfl, link_modifyLink_keeps a Link.withoutMotion hf j⟩

theorem asBuilt_foldl_setEffort (ps : List (LinkId × Float)) (a : Assembly) : (ps.foldl setEffort a).asBuilt = a.asBuilt :=
  Sim.foldl_keeps asBuilt setEffort (fun x p => by
    rw [setEffort, asBuilt_modifyLink]
    exact fun _ => rfl) ps a

theorem asBuilt_output (c : Control.Controller) (a : Assembly) : (c.output a).asBuilt = a.asBuilt := by
  unfold Control.Controller.output
  split
  all_goals
    rw [← Array.foldl_toList]
    refine Sim.foldl_keeps asBuilt _ (fun x e => ?_) _ a
    dsimp only
    rw [asBuilt_modifyLink]
    exact fun _ => rfl

theorem Holds.of_rates {b : BodyId} {r : LinkId} {pose : Mat4} {lk lk' : Link} (h : a.Holds b r pose lk)
    (hv : lk.v = lk'.v) (hw : lk.w = lk'.w) : a.Holds b r pose lk' := by
  obtain ⟨hp, hv', hw', hkin⟩ := h
  exact ⟨hp, hv ▸ hv', hw ▸ hw', hkin⟩

end Assembly

theorem Dynamics.Backend.engine_of_advance {bk bk' : Dynamics.Backend} {a a' : Assembly} {active : Array BodyId}
    {t : Float} (h : bk.advance a active t = .ok (a', bk', true)) :
    ∃ e, bk.engine.advance a active t = .ok (a', e, true) := by
  unfold Dynamics.Backend.advance at h
  cases hs : bk.script with
  | none =>
    simp only [hs, bind, Except.bind, pure, Except.pure] at h
    split at h
    · rename_i a'' e ok heq
      simp only [Except.ok.injEq, Prod.mk.injEq] at h
      obtain ⟨rfl, -, rfl⟩ := h
      exact ⟨e, heq⟩
    · cases h
  | some sc =>
    simp only [hs, bind, Except.bind, pure, Except.pure] at h
    split at h
    · cases h
    · split at h
      · simp at h
      · split at h
        · rename_i a'' e ok heq
          simp only [Except.ok.injEq, Prod.mk.injEq] at h
          obtain ⟨rfl, -, rfl⟩ := h
          exact ⟨e, heq⟩
        · cases h

namespace Sim

variable {τ σ : Type}

/-- The run's active list lists exactly the bodies marked active. -/
def Run.ActiveListed (r : Run) : Prop :=
  ∀ k, k ∈ r.active ↔ ∃ hk : k < r.bodies.size, r.bodies[k].active = true

theorem Run.activeListed_rebuildActive (r : Run) : r.rebuildActive.ActiveListed := by
  intro k
  simp only [rebuildActive, Array.mem_filter, List.mem_toArray, List.mem_range]
  constructor
  · rintro ⟨hk, ha⟩
    exact ⟨hk, by rwa [getElem!_pos _ k hk] at ha⟩
  · rintro ⟨hk, ha⟩
    exact ⟨hk, by rwa [getElem!_pos _ k hk]⟩

/-- Where a simulation body stands in the run: its item, its body, and
whether it is active. -/
def SimBody.place (sb : SimBody) : Nat × BodyId × Bool := (sb.item, sb.body, sb.active)

section Places

variable {r r' : Run}

theorem Run.bodyOf?_of_places (h : r.bodies.map SimBody.place = r'.bodies.map SimBody.place) (item : Nat) :
    r.bodyOf? item = r'.bodyOf? item := by
  have hfind : ∀ r : Run, r.bodyOf? item = (r.bodies.map SimBody.place).findIdx? (·.1 == item) := fun r => by
    simp only [bodyOf?, Array.findIdx?_map]
    rfl
  rw [hfind, hfind, h]

theorem Run.place_getElem!_of_places (h : r.bodies.map SimBody.place = r'.bodies.map SimBody.place) (k : Nat) :
    (r.bodies[k]!).place = (r'.bodies[k]!).place := by
  have hk := congrArg (·[k]?) h
  simp only [Array.getElem?_map] at hk
  rw [Array.getElem!_eq_getD, Array.getElem!_eq_getD, Array.getD_eq_getD_getElem?, Array.getD_eq_getD_getElem?]
  cases hr : r.bodies[k]? <;> cases hr' : r'.bodies[k]? <;> simp_all

theorem Run.ActiveListed.of_places (h : r'.ActiveListed) (hp : r.bodies.map SimBody.place = r'.bodies.map SimBody.place)
    (ha : r.active = r'.active) : r.ActiveListed := by
  have hsize : r.bodies.size = r'.bodies.size := by simpa using congrArg Array.size hp
  intro k
  rw [ha, h k]
  constructor
  · rintro ⟨hk, hact⟩
    have hplace := congrArg (fun xs => xs[k]?) hp
    simp only [Array.getElem?_map, Array.getElem?_eq_getElem (hsize ▸ hk), Array.getElem?_eq_getElem hk,
      Option.map_some, Option.some.injEq, SimBody.place, Prod.mk.injEq] at hplace
    exact ⟨hsize ▸ hk, hplace.2.2.trans hact⟩
  · rintro ⟨hk, hact⟩
    have hplace := congrArg (fun xs => xs[k]?) hp
    simp only [Array.getElem?_map, Array.getElem?_eq_getElem hk, Array.getElem?_eq_getElem (hsize ▸ hk),
      Option.map_some, Option.some.injEq, SimBody.place, Prod.mk.injEq] at hplace
    exact ⟨hsize ▸ hk, hplace.2.2.symm.trans hact⟩

end Places

theorem Perturbations.eq_empty_of_isEmpty {p : Perturbations} (h : p.isEmpty = true) :
    p.forces = #[] ∧ p.strings = #[] ∧ p.forced = #[] := by
  simpa [Perturbations.isEmpty, and_assoc] using h

namespace Lab

/-- What a step keeps from its controllers to its post hooks: where the
run's bodies stand, the active list, and the assembly as built. -/
def build (x : Lab τ σ) : Array (Nat × BodyId × Bool) × Array Nat × Array Body × (LinkId → Link) :=
  (x.run.bodies.map SimBody.place, x.run.active, x.assembly.asBuilt)

variable {x y : Lab τ σ}

theorem build_eq_iff : x.build = y.build ↔
    x.run.bodies.map SimBody.place = y.run.bodies.map SimBody.place ∧ x.run.active = y.run.active ∧
      x.assembly.asBuilt = y.assembly.asBuilt := by
  simp only [build, Prod.mk.injEq]

theorem IndexedRun.of_build (h : y.IndexedRun) (hb : x.build = y.build) : x.IndexedRun := by
  obtain ⟨hp, -, ha⟩ := build_eq_iff.1 hb
  obtain ⟨hab, hl⟩ := Assembly.asBuilt_eq_iff.1 ha
  refine h.congr ?_ hab hl
  have hbodies := congrArg (fun xs => xs.toList.map fun e => e.2.1) hp
  simpa [Array.toList_map, List.map_map, Function.comp_def, SimBody.place] using hbodies

theorem activeListed_of_build (h : y.run.ActiveListed) (hb : x.build = y.build) : x.run.ActiveListed := by
  obtain ⟨hp, ha, -⟩ := build_eq_iff.1 hb
  exact h.of_places hp ha

theorem heldRoot?_of_build (hb : x.build = y.build) (item : Nat) : x.heldRoot? item = y.heldRoot? item := by
  obtain ⟨hp, -, ha⟩ := build_eq_iff.1 hb
  obtain ⟨hab, hl⟩ := Assembly.asBuilt_eq_iff.1 ha
  have hbody : ∀ k, SimBody.body x.run.bodies[k]! = SimBody.body y.run.bodies[k]! := fun k =>
    congrArg (fun e => e.2.1) (Run.place_getElem!_of_places hp k)
  simp only [heldRoot?, Run.bodyOf?_of_places hp, hbody, Assembly.body, hab,
    Assembly.hasParentBody_of_withoutMotion hl]

/-! ### What each stage does to the build -/

variable (x)

theorem build_withAssembly {a : Assembly} (ha : a.asBuilt = x.assembly.asBuilt) : (x.withAssembly a).build = x.build := by
  simp only [build, run_withAssembly, assembly_withAssembly, ha]

theorem build_modifySim {f : Simulator τ → Simulator τ} (hf : ∀ s, (f s).run = s.run) :
    (x.modifySim f).build = x.build := by
  simp [build, run, modifySim, hf]

theorem build_measure (f : Observe.Meter → Observe.Meter) : (x.measure f).build = x.build :=
  build_modifySim x fun _ => rfl

theorem run_view_modifyRun {β : Type} (v : Run → β) {g : Run → Run} (hg : ∀ r, v (g r) = v r) :
    v (x.modifyRun g).run = v x.run := by
  cases hr : x.sim.run <;> simp [run, modifyRun, modifySim, hr, hg]

theorem build_modifyRun {g : Run → Run}
    (hg : ∀ r, (g r).bodies.map SimBody.place = r.bodies.map SimBody.place ∧ (g r).active = r.active) :
    (x.modifyRun g).build = x.build := by
  have hp := run_view_modifyRun x (fun r => r.bodies.map SimBody.place) fun r => (hg r).1
  have ha := run_view_modifyRun x Run.active fun r => (hg r).2
  simp only [build, hp, ha]
  rfl

theorem build_modifyBody (k : Nat) {f : SimBody → SimBody} (hf : ∀ sb, (f sb).place = sb.place) :
    (x.modifyBody k f).build = x.build :=
  build_modifyRun x fun r => ⟨by
    show (r.bodies.modify k f).map SimBody.place = _
    apply Array.ext (by simp)
    intro i h₁ h₂
    simp only [Array.getElem_map, Array.getElem_modify]
    split <;> simp [hf], rfl⟩

theorem build_freeze (k : Nat) : (x.freeze k).build = x.build := by
  unfold freeze
  dsimp only
  split
  · rfl
  · rw [build_modifyBody]
    exact fun _ => rfl

theorem build_runSlot (env : Control.Env) (k : Nat) (sb : SimBody) (si : Nat) : (runSlot env k sb x si).build = x.build := by
  cases hs : (sb.slots[si]!).running with
  | false => rw [runSlot_of_stopped x env k sb si hs]
  | true =>
    rw [runSlot_of_running x env k sb si hs]
    dsimp only
    -- the call changes the controller only, its output the efforts only
    have hcalled : (x.withCalled env (sb.slots[si]!).controller).build = x.build := rfl
    have hout : ((x.withCalled env (sb.slots[si]!).controller).withAssembly
        ((x.called env (sb.slots[si]!).controller).output x.assembly)).build = x.build :=
      (build_withAssembly _ (Assembly.asBuilt_output _ _)).trans hcalled
    split
    · exact hout
    · rw [build_modifyBody]
      exacts [hout, fun _ => rfl]
    · rw [build_measure, build_freeze, build_modifyBody, hcalled]
      exact fun _ => rfl

theorem build_runAllControllers : x.runAllControllers.build = x.build := by
  -- each body's controllers write its frozen efforts back, then run slot by slot
  have hbody : ∀ (y : Lab τ σ) (k : Nat), (y.runControllers k).build = y.build := by
    intro y k
    rw [runControllers_eq, foldl_keeps build _ (fun z si => build_runSlot z _ k _ si)]
    unfold restoreFrozen
    dsimp only
    split
    · rw [← Array.foldl_toList]
      exact build_withAssembly y (Assembly.asBuilt_foldl_setEffort _ _)
    · rfl
  exact foldl_keeps build runControllers hbody _ x

theorem build_detectCollisions : x.detectCollisions.build = x.build := by
  unfold detectCollisions
  split
  · rfl
  · rename_i d _
    -- asking the detector changes the detector, or stops the run's detection
    have hquery : (x.queryDetector d).1.build = x.build := by
      unfold queryDetector
      split
      · exact build_modifyRun x fun _ => ⟨rfl, rfl⟩
      · split
        dsimp only
        exact build_modifySim x fun _ => rfl
    split
    rename_i l pairs heq
    rw [heq] at hquery
    -- handing the contacts over changes the engine and the run's collisions
    unfold useContacts
    dsimp only
    rw [build_modifyRun]
    · split
      · exact (build_modifySim _ fun _ => rfl).trans hquery
      · exact hquery
    · exact fun _ => ⟨rfl, rfl⟩

end Lab

namespace Lab

variable (x : Lab τ σ)

theorem build_advance (hrun : x.IndexedRun) (hact : x.run.ActiveListed) {l : Lab τ σ} (h : x.advance = (l, none)) :
    l.build = x.build := by
  unfold advance at h
  split at h
  · simp at h
  · rename_i bk _
    dsimp only at h
    split at h
    · simp at h
    · rename_i a bk' ok hadv
      simp only [Prod.mk.injEq] at h
      obtain ⟨rfl, hok⟩ := h
      have hok' : ok = true := by
        cases ok
        · simp at hok
        · rfl
      subst hok'
      obtain ⟨e, heng⟩ := Dynamics.Backend.engine_of_advance hadv
      -- every active body is an indexed clone of the run
      have hidx : ∀ c ∈ (x.run.active.map fun k => (x.run.bodies.getD k default).body).toList,
          ∃ t, (bk.engine.withContacts x.assembly).Indexed c t := by
        intro c hc
        simp only [Array.toList_map, List.mem_map, Array.mem_toList_iff] at hc
        obtain ⟨k, hk, rfl⟩ := hc
        obtain ⟨hlt, -⟩ := (hact k).1 hk
        obtain ⟨t, ht⟩ := hrun.getElem hlt
        obtain ⟨hb, hl⟩ := Dynamics.JointSpace.withContacts_keeps bk.engine x.assembly
        refine ⟨t, ?_⟩
        rw [Array.getD_eq_getD_getElem?, Array.getElem?_eq_getElem hlt, Option.getD_some]
        exact ht.congr hb fun l => (hl l).1
      obtain ⟨hb, hl, -⟩ := Dynamics.JointSpace.pass_keeps _ _ hidx (Dynamics.JointSpace.pass_of_advance heng)
      obtain ⟨hb', hl'⟩ := Dynamics.JointSpace.withContacts_keeps bk.engine x.assembly
      rw [build_modifySim]
      · exact build_withAssembly x (Assembly.asBuilt_eq_iff.2 ⟨hb.trans hb', fun l => (hl l).trans (hl' l).1⟩)
      · exact fun _ => rfl

theorem continueWith_eq_none {y : Lab τ σ × Option Failure} {k : Lab τ σ → Lab τ σ × Option Failure} {l : Lab τ σ}
    (h : continueWith y k = (l, none)) : ∃ z, y = (z, none) ∧ k z = (l, none) := by
  rcases y with ⟨z, _ | f⟩
  · exact ⟨z, rfl, h⟩
  · cases h

end Lab

/-- Drivers whose observers leave the run and the assembly alone, and whose
hooks leave the lab as built. -/
structure Handlers.KeepsBuild (h : Handlers τ σ) : Prop where
  event : ∀ ev (x : Lab τ σ), (h.event ev x).run = x.run ∧ (h.event ev x).assembly = x.assembly
  hook : ∀ id task (x : Lab τ σ), (h.hook id task x).1.build = x.build

namespace Lab

/-! ### The table's stages -/

section Table

variable (x : Lab τ σ) (p : Perturbations)

theorem run_view_applyPerturbations {β : Type} (v : Run → β)
    (hv : ∀ (r : Run) e, v { r with forceStart := e :: r.forceStart } = v r) :
    v (x.applyPerturbations p).run = v x.run := by
  have hforce : ∀ (y : Lab τ σ) now (f : ForceCommand), v (y.applyForce now f).run = v y.run := by
    intro y now f
    have hlapsed : v (y.forceLapsed now f).1.run = v y.run := by
      rw [forceLapsed_eq]
      split
      · exact run_view_modifyRun y v fun r => hv r _
      · rfl
    rw [applyForce_eq]
    split
    · rfl
    · split
      · exact hlapsed
      · rw [run_withAssembly]
        exact hlapsed
  unfold applyPerturbations
  dsimp only
  rw [← Array.foldl_toList, ← Array.foldl_toList,
    foldl_keeps (fun y : Lab τ σ => v y.run) applyString (fun y s => by rw [applyString_eq]; split <;> rfl),
    foldl_keeps (fun y : Lab τ σ => v y.run) (applyForce _) (fun y f => hforce y _ f)]

theorem link_view_applyPerturbations {β : Type} (g : Link → β) (hg : ∀ lk q f, g (lk.addExternalForce q f) = g lk)
    (l : LinkId) : g ((x.applyPerturbations p).assembly.link l) = g (x.assembly.link l) := by
  have hforce : ∀ (y : Lab τ σ) now (f : ForceCommand), g ((y.applyForce now f).assembly.link l) = g (y.assembly.link l) := by
    intro y now f
    rw [applyForce_eq]
    split
    · rfl
    · split
      · rw [assembly_forceLapsed]
      · exact Assembly.link_modifyLink_keeps _ g (fun lk => hg lk _ _) _ l
  have hstring : ∀ (y : Lab τ σ) (s : StringCommand), g ((y.applyString s).assembly.link l) = g (y.assembly.link l) := by
    intro y s
    rw [applyString_eq]
    split
    · rfl
    · exact Assembly.link_modifyLink_keeps _ g (fun lk => hg lk _ _) _ l
  unfold applyPerturbations
  dsimp only
  rw [← Array.foldl_toList, ← Array.foldl_toList,
    foldl_keeps (fun y : Lab τ σ => g (y.assembly.link l)) applyString hstring,
    foldl_keeps (fun y : Lab τ σ => g (y.assembly.link l)) (applyForce _) (fun y f => hforce y _ f)]

theorem link_view_clearForces {β : Type} (g : Link → β) (hg : ∀ lk, g lk.clearExternalForces = g lk) (l : LinkId) :
    g (x.clearForces.assembly.link l) = g (x.assembly.link l) := by
  have hbody : ∀ (a : Assembly) (b : BodyId), g ((a.clearExternalForces b).link l) = g (a.link l) := by
    intro a b
    unfold Assembly.clearExternalForces
    rw [← Array.foldl_toList]
    exact foldl_keeps (fun y : Assembly => g (y.link l)) _ (fun y l' => Assembly.link_modifyLink_keeps y g hg l' l) _ a
  unfold clearForces
  rw [← Array.foldl_toList]
  exact foldl_keeps (fun y : Lab τ σ => g (y.assembly.link l))
    (fun lab k => lab.withAssembly (lab.assembly.clearExternalForces (lab.run.bodies.getD k default).body))
    (fun y k => hbody y.assembly _) x.run.active.toList x

theorem aim_applyPerturbations : (x.applyPerturbations p).aim = x.aim := by
  unfold applyPerturbations
  dsimp only
  rw [← Array.foldl_toList, ← Array.foldl_toList, foldl_keeps aim applyString (fun y s => aim_applyString s)]
  exact (foldl_applyForce_keeps x x.run.time p.forces.toList x rfl rfl (fun _ => rfl)).1

theorem build_applyPerturbations : (x.applyPerturbations p).build = x.build := by
  have ha := aim_applyPerturbations x p
  simp only [aim, Prod.mk.injEq] at ha
  obtain ⟨-, hab, hwm, -⟩ := ha
  simp only [build, Assembly.asBuilt, hab, hwm,
    run_view_applyPerturbations x p (fun r => r.bodies.map SimBody.place) (fun _ _ => rfl),
    run_view_applyPerturbations x p Run.active (fun _ _ => rfl)]

theorem holdForcedPoses_keeps :
    (x.holdForcedPoses p).run = x.run ∧ (x.holdForcedPoses p).build = x.build := by
  unfold holdForcedPoses
  rw [← Array.foldl_toList]
  obtain ⟨hr, hb, hl⟩ := foldl_holdForcedPose_keeps p.forced.toList x
  refine ⟨hr, ?_⟩
  simp only [build, hr, Assembly.asBuilt, hb, Prod.mk.injEq, true_and]
  exact funext fun l => (hl l).1

end Table

/-! ### The start of a step -/

section Start

variable {h : Handlers τ σ} (lab : Lab τ σ)

theorem run_beginStep (hk : h.KeepsBuild) :
    (lab.beginStep h).run = if lab.run.activityDirty then { lab.run.rebuildActive with activityDirty := false } else lab.run := by
  have hhooks : (lab.modifySim fun s => { s with pre := s.pre.apply, mid := s.mid.apply, post := s.post.apply }).run =
      lab.run := rfl
  unfold beginStep
  dsimp only
  rw [hhooks]
  by_cases hd : lab.run.activityDirty
  · simp only [hd, if_true]
    rw [(hk.event _ _).1]
    show ((lab.modifySim _).modifyRun _).run = _
    cases hr : lab.sim.run with
    | none =>
      -- between runs the run is blank, and never dirty
      simp [run, hr] at hd
    | some r => simp [run, modifyRun, modifySim, hr]
  · simp only [hd, Bool.false_eq_true, if_false]
    rfl

theorem assembly_beginStep (hk : h.KeepsBuild) : (lab.beginStep h).assembly = lab.assembly := by
  unfold beginStep
  dsimp only
  split
  · rw [(hk.event _ _).2]
    rfl
  · rfl

variable (h) in
/-- The lab a step applies its perturbation table to: the step begun and the
wrenches of its active bodies cleared. -/
def cleared : Lab τ σ := (lab.beginStep h).clearForces

theorem beginStep_ready (hk : h.KeepsBuild) (hact : lab.run.ActiveListed) (hrun : lab.IndexedRun) :
    (lab.beginStep h).run.ActiveListed ∧ (lab.beginStep h).IndexedRun ∧
      (lab.beginStep h).run.forceStart = lab.run.forceStart ∧ (lab.beginStep h).run.time = lab.run.time := by
  have hr := run_beginStep lab hk
  have hasm := assembly_beginStep lab hk
  refine ⟨?_, hrun.congr ?_ (by rw [hasm]) (fun l => by rw [hasm]), ?_, ?_⟩
  all_goals rw [hr]
  · split
    · exact lab.run.activeListed_rebuildActive
    · exact hact
  · split
    · simp [Run.rebuildActive, Function.comp_def]
    · rfl
  · split <;> rfl
  · split <;> rfl

end Start

/-! ### Where the table acts -/

section Reach

variable (x : Lab τ σ)

/-- Link `l` belongs to the body of a simulation body marked active. -/
def OnActive (l : LinkId) : Prop :=
  ∃ sb ∈ x.run.bodies, sb.active = true ∧ l ∈ (x.assembly.body sb.body).links

variable {x}

theorem target?_spec {item : Nat} {link : Int} {b : BodyId} {l : LinkId} (h : x.target? item link = some (b, l)) :
    ∃ sb ∈ x.run.bodies, sb.active = true ∧ sb.body = b ∧ l ∈ (x.assembly.body b).links := by
  unfold target? at h
  cases hk : x.run.bodyOf? item with
  | none => simp [hk] at h
  | some k =>
    obtain ⟨hlt, -, -⟩ := Array.findIdx?_eq_some_iff_getElem.1 hk
    rw [hk] at h
    dsimp only at h
    rw [getElem!_pos x.run.bodies k hlt] at h
    cases ha : x.run.bodies[k].active with
    | false => simp [ha] at h
    | true =>
      simp only [ha, Bool.not_true, Bool.false_eq_true, if_false, Option.map_eq_some_iff, Prod.mk.injEq] at h
      obtain ⟨l', hl', rfl, rfl⟩ := h
      refine ⟨x.run.bodies[k], Array.getElem_mem hlt, ha, rfl, ?_⟩
      -- an index in range picks a link of the body
      unfold Assembly.linkAt? at hl'
      split at hl'
      · cases hl'
      · exact Array.mem_iff_getElem?.2 ⟨_, hl'⟩

theorem onActive_of_target? {item : Nat} {link : Int} {b : BodyId} {l : LinkId} (h : x.target? item link = some (b, l)) :
    x.OnActive l := by
  obtain ⟨sb, hsb, ha, rfl, hl⟩ := target?_spec h
  exact ⟨sb, hsb, ha, hl⟩

theorem target?_lt_size (hrun : x.IndexedRun) {item : Nat} {link : Int} {b : BodyId} {l : LinkId}
    (h : x.target? item link = some (b, l)) : l.idx < x.assembly.links.size := by
  obtain ⟨sb, hsb, -, rfl, hl⟩ := target?_spec h
  obtain ⟨t, ht⟩ := hrun.indexed sb.body (List.mem_map_of_mem (Array.mem_toList_iff.2 hsb))
  exact ht.lt_size_of_mem hl

theorem forceOn_of_not_onActive {l : LinkId} (hl : ¬ x.OnActive l) (now : Float) (f : ForceCommand) :
    x.forceOn now l f = none := by
  unfold forceOn
  cases ht : x.target? f.item f.link with
  | none => rfl
  | some bl =>
    obtain ⟨b, l'⟩ := bl
    have hne : l' ≠ l := fun he => hl (he ▸ onActive_of_target? ht)
    simp [hne]

theorem stringOn_of_not_onActive {l : LinkId} (hl : ¬ x.OnActive l) (s : StringCommand) : x.stringOn l s = none := by
  unfold stringOn
  cases ht : x.target? s.item s.link with
  | none => rfl
  | some bl =>
    obtain ⟨b, l'⟩ := bl
    have hne : l' ≠ l := fun he => hl (he ▸ onActive_of_target? ht)
    simp [hne]

theorem onActive_clearForces (l : LinkId) : x.clearForces.OnActive l ↔ x.OnActive l := by
  obtain ⟨hr, ha, -⟩ := x.clearForces_keeps
  simp only [aim, Prod.mk.injEq] at ha
  simp only [OnActive, Assembly.body, hr, ha.2.1]

theorem IndexedRun.clearForces (h : x.IndexedRun) : x.clearForces.IndexedRun := by
  obtain ⟨hr, ha, -⟩ := x.clearForces_keeps
  simp only [aim, Prod.mk.injEq] at ha
  exact h.congr (by rw [hr]) ha.2.1 (congrFun ha.2.2.1)

theorem wrench_clearForces_of_onActive (hact : x.run.ActiveListed) (hrun : x.IndexedRun) {l : LinkId}
    (hl : x.OnActive l) : (x.clearForces.assembly.link l).wrench = Wrench.zero := by
  obtain ⟨sb, hsb, ha, hl⟩ := hl
  obtain ⟨k, hk, rfl⟩ := Array.mem_iff_getElem.1 hsb
  obtain ⟨t, ht⟩ := hrun.getElem hk
  rw [wrench_clearForces, if_pos]
  refine ⟨⟨k, (hact k).2 ⟨hk, ha⟩, ?_⟩, ht.lt_size_of_mem hl⟩
  rwa [Array.getD_eq_getD_getElem?, Array.getElem?_eq_getElem hk, Option.getD_some]

theorem wrench_clearForces_of_not_onActive (hact : x.run.ActiveListed) {l : LinkId} (hl : ¬ x.OnActive l) :
    (x.clearForces.assembly.link l).wrench = (x.assembly.link l).wrench := by
  rw [wrench_clearForces, if_neg]
  rintro ⟨⟨k, hk, hlk⟩, -⟩
  obtain ⟨hlt, ha⟩ := (hact k).1 hk
  rw [Array.getD_eq_getD_getElem?, Array.getElem?_eq_getElem hlt, Option.getD_some] at hlk
  exact hl ⟨_, Array.getElem_mem hlt, ha, hlk⟩

end Reach


variable (h : Handlers τ σ) (lab : Lab τ σ)

/-- The state a step's controllers start from: the step begun, the wrenches
of the active bodies cleared, and, unless the table is empty, its forces and
strings applied and its forced poses held. -/
def controllersStart : Lab τ σ :=
  let pert := (lab.cleared h).sim.perturb
  if pert.isEmpty then lab.cleared h else ((lab.cleared h).applyPerturbations pert).holdForcedPoses pert

/-- A step from its controllers through its engine: the controllers, the pre
and mid hooks, collision detection and the engine's step, or the failure
that ends the step. -/
def throughEngine : Lab τ σ × Option Failure :=
  continueWith ((lab.controllersStart h).runAllControllers.runPhase h .pre) fun lab =>
  continueWith (lab.runPhase h .mid) fun lab =>
  (if lab.run.detecting then lab.detectCollisions else lab).advance

theorem continueWith_continueWith (x : Lab τ σ × Option Failure) (k₁ k₂ : Lab τ σ → Lab τ σ × Option Failure) :
    continueWith (continueWith x k₁) k₂ = continueWith x fun l => continueWith (k₁ l) k₂ := by
  rcases x with ⟨l, _ | f⟩ <;> rfl

theorem step_eq_throughEngine :
    lab.step h =
      let pert := (lab.cleared h).sim.perturb
      continueWith (lab.throughEngine h) fun l =>
      continueWith ((if pert.isEmpty then l else l.holdForcedPoses pert).runPhase h .post) fun l =>
      (l.completeStep h, none) := by
  rw [step_eq]
  simp only [throughEngine, controllersStart, cleared, continueWith_continueWith]
  rfl

variable {h lab}

theorem build_throughEngine (hk : h.KeepsBuild) (hrun : (lab.controllersStart h).IndexedRun)
    (hact : (lab.controllersStart h).run.ActiveListed) {l : Lab τ σ} (he : lab.throughEngine h = (l, none)) :
    l.build = (lab.controllersStart h).build := by
  unfold throughEngine at he
  obtain ⟨y, hy, he⟩ := continueWith_eq_none he
  obtain ⟨z, hz, he⟩ := continueWith_eq_none he
  -- the controllers and the pre hooks, then the mid hooks, then detection
  have hy' : y.build = (lab.controllersStart h).build := by
    have hpre := runPhase_keeps (lab.controllersStart h).runAllControllers build hk.hook .pre
    rw [hy] at hpre
    exact hpre.trans (build_runAllControllers _)
  have hz' : z.build = y.build := by
    have hmid := runPhase_keeps y build hk.hook .mid
    rwa [hz] at hmid
  have hd : (if z.run.detecting then z.detectCollisions else z).build = z.build := by
    split
    · exact build_detectCollisions z
    · rfl
  have hb := hd.trans (hz'.trans hy')
  rw [build_advance _ (IndexedRun.of_build hrun hb) (activeListed_of_build hact hb) he, hb]

/-! ### When the controllers start -/

theorem build_controllersStart : (lab.controllersStart h).build = (lab.cleared h).build := by
  unfold controllersStart
  dsimp only
  split
  · rfl
  · rw [(holdForcedPoses_keeps _ _).2, build_applyPerturbations]

section Ready

variable (hk : h.KeepsBuild) (hact : lab.run.ActiveListed) (hrun : lab.IndexedRun)
include hk hact hrun

/-- What a link carries when the controllers start: what it carried when
the table was applied, plus, in table order, what each force aimed at it
that has not lapsed adds, then what each string aimed at it adds. -/
theorem wrench_controllersStart (l : LinkId) :
    ((lab.controllersStart h).assembly.link l).wrench =
      ((lab.cleared h).sim.perturb.strings.toList.filterMap ((lab.cleared h).stringOn l)).foldl (· + ·)
        (((lab.cleared h).sim.perturb.forces.toList.filterMap ((lab.cleared h).forceOn lab.run.time l)).foldl (· + ·)
          ((lab.cleared h).assembly.link l).wrench) := by
  obtain ⟨-, hrun₀, -, htime⟩ := beginStep_ready lab hk hact hrun
  have hrunc : (lab.cleared h).IndexedRun := hrun₀.clearForces
  have htimec : (lab.cleared h).run.time = lab.run.time := by
    rw [← htime]
    exact congrArg Run.time (lab.beginStep h).clearForces_keeps.1
  unfold controllersStart
  dsimp only
  split
  · rename_i hempty
    obtain ⟨hf, hs, -⟩ := Perturbations.eq_empty_of_isEmpty hempty
    simp [hf, hs]
  · rw [wrench_holdForcedPoses, wrench_applyPerturbations _ _ l (fun _ _ _ _ ht => target?_lt_size hrunc ht),
      htimec]

theorem controllersStart_holds (hnd : ((lab.cleared h).sim.perturb.forced.toList.map ForcedPose.item).Nodup)
    {fp : ForcedPose} (hfp : fp ∈ (lab.cleared h).sim.perturb.forced) {b : BodyId} {r : LinkId}
    (hheld : (lab.cleared h).heldRoot? fp.item = some (b, r)) :
    (lab.controllersStart h).assembly.Holds b r fp.pose (lab.assembly.link r) := by
  obtain ⟨-, hrun₀, -, -⟩ := beginStep_ready lab hk hact hrun
  have hne : (lab.cleared h).sim.perturb.isEmpty = false := by
    cases he : (lab.cleared h).sim.perturb.isEmpty
    · rfl
    · rw [(Perturbations.eq_empty_of_isEmpty he).2.2] at hfp
      simp at hfp
  -- the table's forces and strings leave the hold's aim as it was
  have hX := build_applyPerturbations (lab.cleared h) (lab.cleared h).sim.perturb
  have hholds := holdForcedPoses_holds (IndexedRun.of_build hrun₀.clearForces hX) hnd hfp
    ((heldRoot?_of_build hX _).trans hheld)
  -- the clearing and the table leave the rates as the step began
  have hrates : ∀ {β : Type} (g : Link → β), (∀ lk q f, g (lk.addExternalForce q f) = g lk) →
      (∀ lk, g lk.clearExternalForces = g lk) →
      g (((lab.cleared h).applyPerturbations (lab.cleared h).sim.perturb).assembly.link r) = g (lab.assembly.link r) := by
    intro β g hadd hclear
    rw [link_view_applyPerturbations _ _ g hadd, cleared, link_view_clearForces _ g hclear, assembly_beginStep lab hk]
  unfold controllersStart
  simp only [hne, Bool.false_eq_true, if_false]
  exact hholds.of_rates (hrates Link.v (fun _ _ _ => rfl) fun _ => rfl) (hrates Link.w (fun _ _ _ => rfl) fun _ => rfl)

theorem throughEngine_holds (hnd : ((lab.cleared h).sim.perturb.forced.toList.map ForcedPose.item).Nodup)
    {fp : ForcedPose} (hfp : fp ∈ (lab.cleared h).sim.perturb.forced) {b : BodyId} {r : LinkId}
    (hheld : (lab.cleared h).heldRoot? fp.item = some (b, r)) {l : Lab τ σ} (he : lab.throughEngine h = (l, none)) :
    (l.holdForcedPoses (lab.cleared h).sim.perturb).assembly.Holds b r fp.pose (l.assembly.link r) := by
  obtain ⟨hact₀, hrun₀, -, -⟩ := beginStep_ready lab hk hact hrun
  have hactc : (lab.cleared h).run.ActiveListed := by
    rw [cleared, (lab.beginStep h).clearForces_keeps.1]
    exact hact₀
  -- the controllers, the hooks, detection and the engine keep the lab as built
  have hbL : (lab.controllersStart h).build = (lab.cleared h).build := build_controllersStart
  have hbl := (build_throughEngine hk (IndexedRun.of_build hrun₀.clearForces hbL) (activeListed_of_build hactc hbL)
    he).trans hbL
  exact holdForcedPoses_holds (IndexedRun.of_build hrun₀.clearForces hbl) hnd hfp ((heldRoot?_of_build hbl _).trans hheld)

end Ready

theorem lookup_controllersStart (hk : h.KeepsBuild) (s : Nat) :
    (lab.controllersStart h).run.forceStart.lookup s =
      (lab.run.forceStart.lookup s).or
        (if ∃ f ∈ (lab.cleared h).sim.perturb.forces.toList, f.seq = s ∧ f.duration > 0.0 ∧
            ((lab.cleared h).target? f.item f.link).isSome then some lab.run.time else none) := by
  have hclock : (lab.cleared h).run.forceStart = lab.run.forceStart ∧ (lab.cleared h).run.time = lab.run.time := by
    rw [cleared, (lab.beginStep h).clearForces_keeps.1, run_beginStep lab hk]
    split <;> exact ⟨rfl, rfl⟩
  unfold controllersStart
  dsimp only
  split
  · rename_i hempty
    obtain ⟨hf, -, -⟩ := Perturbations.eq_empty_of_isEmpty hempty
    simp [hf, hclock.1]
  · rw [(holdForcedPoses_keeps _ _).1, lookup_forceStart_applyPerturbations, hclock.1, hclock.2]

/-- The perturbations of a step.  Its controllers start from
`controllersStart`, and after an engine step that goes through it holds the
forced poses again before the post hooks run.  When the controllers start,
each link of an active body carries exactly what the table adds in this step,
from nothing: in table order each force aimed at it that has not lapsed,
then each string aimed at it; every other link carries what it carried when
the step began.  A timed force aimed at a link that had no clock starts one
at the step's time.  Each forced root of a body that hangs from no other
body is at its pose, with its rates scaled to zero and its body kinematic,
when the controllers start and again after the engine step. -/
def ActsInStep (h : Handlers τ σ) (lab : Lab τ σ) : Prop :=
  let c := lab.cleared h
  let p := c.sim.perturb
  let L := lab.controllersStart h
  (lab.step h = continueWith (lab.throughEngine h) fun l =>
      continueWith ((if p.isEmpty then l else l.holdForcedPoses p).runPhase h .post) fun l => (l.completeStep h, none)) ∧
    (∀ l, c.OnActive l → (L.assembly.link l).wrench =
      (p.strings.toList.filterMap (c.stringOn l)).foldl (· + ·)
        ((p.forces.toList.filterMap (c.forceOn lab.run.time l)).foldl (· + ·) Wrench.zero)) ∧
    (∀ l, ¬ c.OnActive l → (L.assembly.link l).wrench = (lab.assembly.link l).wrench) ∧
    (∀ s, L.run.forceStart.lookup s = (lab.run.forceStart.lookup s).or
      (if ∃ f ∈ p.forces.toList, f.seq = s ∧ f.duration > 0.0 ∧ (c.target? f.item f.link).isSome
       then some lab.run.time else none)) ∧
    ((p.forced.toList.map ForcedPose.item).Nodup → ∀ fp ∈ p.forced, ∀ b r, c.heldRoot? fp.item = some (b, r) →
      L.assembly.Holds b r fp.pose (lab.assembly.link r) ∧
      ∀ l, lab.throughEngine h = (l, none) →
        (l.holdForcedPoses p).assembly.Holds b r fp.pose (l.assembly.link r))

theorem actsInStep (hk : h.KeepsBuild) (hact : lab.run.ActiveListed) (hrun : lab.IndexedRun) :
    lab.ActsInStep h := by
  obtain ⟨hact₀, hrun₀, -, -⟩ := beginStep_ready lab hk hact hrun
  refine ⟨step_eq_throughEngine h lab, fun l hl => ?_, fun l hl => ?_, lookup_controllersStart hk,
    fun hnd fp hfp b r hheld => ⟨controllersStart_holds hk hact hrun hnd hfp hheld,
      fun l he => throughEngine_holds hk hact hrun hnd hfp hheld he⟩⟩
  · -- a link of an active body: cleared, then what the table adds
    rw [wrench_controllersStart hk hact hrun l, cleared,
      wrench_clearForces_of_onActive hact₀ hrun₀ ((onActive_clearForces l).1 hl)]
  · -- any other link: kept, and aimed at by nothing
    rw [wrench_controllersStart hk hact hrun l,
      List.filterMap_eq_nil_iff.2 fun s _ => stringOn_of_not_onActive hl s,
      List.filterMap_eq_nil_iff.2 fun f _ => forceOn_of_not_onActive hl _ f, List.foldl_nil, List.foldl_nil, cleared,
      wrench_clearForces_of_not_onActive hact₀ fun h' => hl ((onActive_clearForces l).2 h'), assembly_beginStep lab hk]

end Lab

end Sim

end Multibody
