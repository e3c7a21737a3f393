import Mathlib
import Multibody.Proofs.Lifecycle.Activity
import Multibody.Proofs.Body.Cloning
import Multibody.Proofs.Body.RoundTrip

/-!
# The perturbations over a run

`Lab.actsInStep` says what a step does with the perturbation table when its
run lists its active bodies and its clones are distinct and indexed
(`Lab.Ready`).  That holds at every step of a run started over a world of
distinct indexed masters: the setup makes a ready run (`Lab.setup_ready`)
and each step keeps it (`Lab.Ready.step`), along the steps the loop takes
(`Lab.stepLabs`).  A run's force clock starts empty, each step ends with the
clock its controllers started with (`Lab.forceStart_step`), and a force set
gets a number no clock entry holds (`Lab.Numbered.setExternalForce`), so a
replaced force starts a new clock (`Lab.perturbations_act_at_each_step`).
-/

namespace Multibody.Sim

variable {τ σ : Type}

namespace Lab

/-! ## The steps of a loop -/

/-- The labs the steps of a loop start from, in order: a hold that goes on
adds none, and a step that fails or reaches the end is the last. -/
def stepLabs (h : Handlers τ σ) : Nat → Lab τ σ → List (Lab τ σ)
  | 0, _ => []
  | fuel + 1, lab =>
    if lab.run.stop then []
    else if lab.sim.state == .paused then
      match holdRun h lab with
      | (lab, true) => stepLabs h fuel lab
      | (_, false) => []
    else
      lab :: match step h lab with
        | (_, some _) => []
        | (lab, none) =>
          let lab := lab.measure (·.observeStep 0)
          if lab.reachedEnd then [] else stepLabs h fuel lab

variable {h : Handlers τ σ}

theorem forall_stepLabs (P : Lab τ σ → Prop)
    (hstep : ∀ x l, P x → x.step h = (l, none) → P (l.measure (·.observeStep 0)))
    (hhold : ∀ x l, P x → x.holdRun h = (l, true) → P l) :
    ∀ (fuel : Nat) (lab : Lab τ σ), P lab → ∀ L ∈ stepLabs h fuel lab, P L
  | 0, _, _ => fun _ hL => by cases hL
  | fuel + 1, lab, hp => by
    unfold stepLabs
    split
    · simp
    split
    · split
      · rename_i l heq
        exact forall_stepLabs P hstep hhold fuel l (hhold lab l hp heq)
      · simp
    · intro L hL
      rcases List.mem_cons.1 hL with rfl | hL
      · exact hp
      split at hL
      · simp at hL
      · rename_i l heq
        dsimp only at hL
        split at hL
        · simp at hL
        · exact forall_stepLabs P hstep hhold fuel _ (hstep lab l hp heq) L hL

theorem head_stepLabs {β : Type} (v : Lab τ σ → β) (hhold : ∀ x l b, x.holdRun h = (l, b) → v l = v x) :
    ∀ (fuel : Nat) (lab : Lab τ σ), ∀ L ∈ (stepLabs h fuel lab).head?, v L = v lab
  | 0, _ => fun _ hL => by cases hL
  | fuel + 1, lab => by
    unfold stepLabs
    split
    · simp
    split
    · split
      · rename_i l heq
        intro L hL
        exact (head_stepLabs v hhold fuel l L hL).trans (hhold lab l true heq)
      · simp
    · simp

theorem isChain_stepLabs {β : Type} (v : Lab τ σ → β) (R : Lab τ σ → β → Prop)
    (hstep : ∀ x l, x.step h = (l, none) → R x (v l)) (hmeasure : ∀ x, v (x.measure (·.observeStep 0)) = v x)
    (hhold : ∀ x l b, x.holdRun h = (l, b) → v l = v x) :
    ∀ (fuel : Nat) (lab : Lab τ σ), (stepLabs h fuel lab).IsChain fun L L' => R L (v L')
  | 0, _ => .nil
  | fuel + 1, lab => by
    unfold stepLabs
    split
    · simp
    split
    · split
      · exact isChain_stepLabs v R hstep hmeasure hhold fuel _
      · simp
    · split
      · simp
      · rename_i l heq
        dsimp only
        split
        · simp
        · -- the next step starts from the measured lab, past any holds
          refine List.isChain_cons.2 ⟨fun L hL => ?_, isChain_stepLabs v R hstep hmeasure hhold fuel _⟩
          rw [head_stepLabs v hhold fuel _ L hL, hmeasure]
          exact hstep lab l heq

/-! ## Ready runs -/

/-- A lab whose steps act as `actsInStep` says: its run lists its active
bodies, and its clones are distinct and indexed. -/
structure Ready (lab : Lab τ σ) : Prop where
  active : lab.run.ActiveListed
  indexed : lab.IndexedRun

theorem Ready.of_build {x y : Lab τ σ} (hy : y.Ready) (hb : x.build = y.build) : x.Ready :=
  ⟨activeListed_of_build hy.active hb, IndexedRun.of_build hy.indexed hb⟩

section Build

variable (x : Lab τ σ)

theorem build_erase : x.erase.build = x.build := by
  simp [build, Run.erase, SimBody.place, SimBody.erase, Function.comp_def]

theorem build_flush : x.flush.build = x.build := by
  rw [← build_erase, erase_flush, build_erase]

theorem build_completeStep : (x.completeStep h).build = x.build := by
  have hbuffer : ∀ y : Lab τ σ, y.bufferAll.build = y.build := by
    intro y
    have hbuf : ∀ (l : Lab τ σ) k frame t, (l.bufferResults k frame t).build = l.build := fun l k frame t => by
      unfold bufferResults
      exact build_modifyBody _ _ fun _ => rfl
    unfold bufferAll
    dsimp only
    exact foldl_keeps build _ (fun l k => hbuf l k _ _) _ _
  unfold completeStep
  dsimp only
  -- the frame advances, the clock follows, every body buffers; publishing changes the items
  split
  · rw [build_flush, build_measure, hbuffer, build_modifySim, build_modifyRun]
    · exact fun _ => ⟨rfl, rfl⟩
    · exact fun _ => rfl
  · rw [build_measure, hbuffer, build_modifySim, build_modifyRun]
    · exact fun _ => ⟨rfl, rfl⟩
    · exact fun _ => rfl

theorem build_opened (reset : Bool) : (x.opened reset).build = x.build := by
  have hrest : ∀ (y : Lab τ σ) span st, ((y.trace span).setState st).build = y.build := fun _ _ _ => rfl
  unfold opened
  dsimp only
  rw [hrest]
  split
  · exact build_modifyRun _ fun _ => ⟨rfl, rfl⟩
  · rfl

variable {x}

theorem build_event (hk : h.KeepsBuild) (ev : Event) : (h.event ev x).build = x.build := by
  simp only [build, (hk.event ev x).1, (hk.event ev x).2]

theorem build_holdRun (hk : h.KeepsBuild) : (x.holdRun h).1.build = x.build := by
  unfold holdRun
  dsimp only
  split
  · rw [build_event hk, build_flush]
  · rw [build_event hk, build_event hk, build_flush]

end Build

section Ready

variable {x l : Lab τ σ}

theorem Ready.step (hk : h.KeepsBuild) (hr : x.Ready) (hs : x.step h = (l, none)) :
    (l.measure (·.observeStep 0)).Ready := by
  obtain ⟨hact₀, hrun₀, -, -⟩ := beginStep_ready x hk hr.active hr.indexed
  have hc : (x.cleared h).Ready :=
    ⟨by rw [cleared, (x.beginStep h).clearForces_keeps.1]; exact hact₀, hrun₀.clearForces⟩
  have hcs : (x.controllersStart h).Ready := hc.of_build build_controllersStart
  rw [step_eq_throughEngine] at hs
  obtain ⟨y, hy, hs⟩ := continueWith_eq_none hs
  obtain ⟨z, hz, hs⟩ := continueWith_eq_none hs
  rw [Prod.mk.injEq] at hs
  obtain ⟨rfl, -⟩ := hs
  have hzy : z.build = y.build := by
    have hpost := runPhase_keeps (if (x.cleared h).sim.perturb.isEmpty then y
      else y.holdForcedPoses (x.cleared h).sim.perturb) build hk.hook .post
    rw [hz] at hpost
    rw [hpost]
    split
    · rfl
    · exact (holdForcedPoses_keeps _ _).2
  exact hcs.of_build (by rw [build_measure, build_completeStep, hzy, build_throughEngine hk hcs.indexed hcs.active hy])

theorem Ready.holdRun (hk : h.KeepsBuild) {b : Bool} (hr : x.Ready) (hs : x.holdRun h = (l, b)) : l.Ready :=
  hr.of_build (by rw [← build_holdRun (x := x) hk, hs])

end Ready

/-! ## A setup makes a ready run -/

/-- The masters of a world's items: distinct bodies, each indexed over its
tree in `ts`. -/
structure DistinctMasters (lab : Lab τ σ) (ts : BodyId → LinkTree) : Prop where
  nodup : (lab.world.bodies.toList.map fun i => (lab.items.getD i default).master).Nodup
  indexed : ∀ i ∈ lab.world.bodies.toList, lab.assembly.Indexed (lab.items.getD i default).master
    (ts (lab.items.getD i default).master)

theorem exists_of_mem_forall₂ {α β : Type} {R : α → β → Prop} {c : β} :
    ∀ {l₁ : List α} {l₂ : List β}, List.Forall₂ R l₁ l₂ → c ∈ l₂ → ∃ b ∈ l₁, R b c
  | _, _, .nil, hc => by cases hc
  | _, _, .cons hr hrest, hc => by
    rcases List.mem_cons.1 hc with rfl | hc
    · exact ⟨_, List.mem_cons_self, hr⟩
    · obtain ⟨b, hb, hrb⟩ := exists_of_mem_forall₂ hrest hc
      exact ⟨b, List.mem_cons_of_mem _ hb, hrb⟩

theorem cloneItems_copies {a₀ : Assembly} {ts : BodyId → LinkTree} (items : Array BodyItem) :
    ∀ (is : List Nat) (S : List BodyId) (a : Assembly) (cm : CloneMap) (clones : Array BodyId),
      a₀.Copies ts S a cm → List.Forall₂ (fun b c => cm.lookup? (.body b) = some c.idx) S.reverse clones.toList →
      ((is.map fun i => (items.getD i default).master) ++ S).Nodup →
      (∀ i ∈ is, a₀.Indexed (items.getD i default).master (ts (items.getD i default).master)) →
      ∃ a' cm' clones', cloneItems items is a cm clones = (a', cm', clones', none) ∧
        a₀.Copies ts ((is.map fun i => (items.getD i default).master).reverse ++ S) a' cm' ∧
        List.Forall₂ (fun b c => cm'.lookup? (.body b) = some c.idx)
          (S.reverse ++ is.map fun i => (items.getD i default).master) clones'.toList
  | [], S, a, cm, clones, hc, hf, _, _ => ⟨a, cm, clones, rfl, hc, by simpa using hf⟩
  | i :: is, S, a, cm, clones, hc, hf, hnd, hidx => by
    -- the item's master is new, and shares no link with the masters copied before it
    have hb := hidx i List.mem_cons_self
    have hbS : (items.getD i default).master ∉ S := fun h => (List.nodup_cons.1 hnd).1 (List.mem_append_right _ h)
    obtain ⟨a', cm', c, hclone, hkey, hkeep, hc'⟩ := hc.cloneBody hbS hb
      fun d hd _ hl => hb.not_mem_of_ne (hc.indexed d hd) (fun e => hbS (e ▸ hd)) hl
    have hitem : cloneItem a cm (items.getD i default) = .ok (a', cm', c) := by
      unfold cloneItem
      rw [hc.oldBodies _ (Assembly.lt_size_of_root hb.root), hb.root]
      simp only [hclone]
    obtain ⟨a'', cm'', clones', hrest, hc'', hf''⟩ := cloneItems_copies items is _ a' cm' (clones.push c) hc'
      (by
        rw [List.reverse_cons, Array.toList_push]
        exact List.rel_append (hf.imp fun _ _ h => hkeep _ _ h) (.cons hkey .nil))
      (List.nodup_middle.2 hnd) fun j hj => hidx j (List.mem_cons_of_mem _ hj)
    refine ⟨a'', cm'', clones', by rw [cloneItems, hitem]; exact hrest, ?_, ?_⟩
    · simpa using hc''
    · simpa using hf''

theorem nodup_of_lookups {cm : CloneMap} (hinj : ∀ b d v, cm.lookup? (.body b) = some v → cm.lookup? (.body d) = some v → b = d)
    {bs cs : List BodyId} (hf : List.Forall₂ (fun b c => cm.lookup? (.body b) = some c.idx) bs cs) (hnd : bs.Nodup) :
    cs.Nodup := by
  have hbi : Relator.BiUnique fun (b c : BodyId) => cm.lookup? (.body b) = some c.idx :=
    ⟨fun b d c hb hd => hinj b d c.idx hb hd, fun b c c' hc hc' => by
      cases c
      cases c'
      simp_all⟩
  exact (List.rel_nodup hbi hf).1 hnd

theorem asBuilt_applyStates : ∀ (pairs : List (Nat × BodyId)) (x : Lab τ σ),
    (∀ p ∈ pairs, ∃ t, x.assembly.Indexed p.2 t) → (x.applyStates pairs).assembly.asBuilt = x.assembly.asBuilt
  | [], _, _ => rfl
  | (i, c) :: rest, x, hidx => by
    obtain ⟨t, ht⟩ := hidx (i, c) List.mem_cons_self
    -- the first clone put in its state keeps the assembly as built
    have hfirst : ∃ y : Lab τ σ, x.applyStates ((i, c) :: rest) = y.applyStates rest ∧
        y.assembly.asBuilt = x.assembly.asBuilt := by
      refine ⟨_, rfl, ?_⟩
      dsimp only
      split
      · rename_i st _
        obtain ⟨y', hy', hb, hl, -⟩ := Assembly.applySnapshot_of_indexed ht st
        rw [hy']
        exact Assembly.asBuilt_eq_iff.2 ⟨hb, hl⟩
      · rfl
    obtain ⟨y, hy, hasm⟩ := hfirst
    obtain ⟨hb, hl⟩ := Assembly.asBuilt_eq_iff.1 hasm
    rw [hy, asBuilt_applyStates rest y fun p hp => ?_, hasm]
    obtain ⟨t', ht'⟩ := hidx p (List.mem_cons_of_mem _ hp)
    exact ⟨t', Assembly.Indexed.congr hb hl ht'⟩

theorem prepareBodies_sublist (cfg : Config) :
    ∀ (pairs : List (Nat × BodyId)) (lab lab' : Lab τ σ) (bodies bodies' : Array SimBody),
      prepareBodies cfg pairs lab bodies = (lab', .ok bodies') →
      (bodies'.toList.map SimBody.body).Sublist (bodies.toList.map SimBody.body ++ pairs.map Prod.snd)
  | [], lab, lab', bodies, bodies', h => by
    simp only [prepareBodies, Prod.mk.injEq, Except.ok.injEq] at h
    rw [← h.2]
    simp
  | (i, c) :: rest, lab, lab', bodies, bodies', h => by
    unfold prepareBodies prepareControllers at h
    split at h
    · simp at h
    · exact (prepareBodies_sublist cfg rest _ _ _ _ h).trans (by simp)
    · simpa using prepareBodies_sublist cfg rest _ _ _ _ h

theorem forceStart_resolveDetector (lab : Lab τ σ) : lab.resolveDetector.run.forceStart = lab.run.forceStart := by
  unfold resolveDetector
  dsimp only
  split
  · rfl
  · split
    · rfl
    · split
      · rfl
      · exact run_view_modifyRun _ Run.forceStart fun _ => rfl

/-- The clones of a world of distinct indexed masters: all are made, at most
one for each item, distinct, and indexed once the clone map is finished. -/
theorem cloneItems_world {lab : Lab τ σ} {ts : BodyId → LinkTree} (hm : lab.DistinctMasters ts) :
    ∃ a cm clones, cloneItems lab.items lab.world.bodies.toList lab.assembly {} #[] = (a, cm, clones, none) ∧
      clones.toList.Nodup ∧ clones.toList.length ≤ lab.world.bodies.toList.length ∧
      ∀ c ∈ clones.toList, ∃ t, (a.finalizeClones cm).1.Indexed c t := by
  obtain ⟨a, cm, clones, hclone, hcopies, hf⟩ := cloneItems_copies lab.items lab.world.bodies.toList [] lab.assembly {} #[]
    (Assembly.copies_nil _ ts) .nil (by rw [List.append_nil]; exact hm.nodup) hm.indexed
  rw [List.append_nil] at hcopies
  rw [List.reverse_nil, List.nil_append] at hf
  refine ⟨a, cm, clones, hclone, nodup_of_lookups hcopies.bodyInj hf hm.nodup,
    by rw [← hf.length_eq, List.length_map], fun c hc => ?_⟩
  -- a clone is the copy of a master, which the finished map keeps
  obtain ⟨b, hb, hkey⟩ := exists_of_mem_forall₂ hf hc
  obtain ⟨c', hc', -⟩ := hcopies.finalizeClones b (List.mem_reverse.2 hb)
  obtain ⟨n, -, hi⟩ := hc'.indexed
  have hkey' := hc'.key
  rw [Assembly.lookup?_finalizeClones, hkey] at hkey'
  obtain ⟨c⟩ := c
  obtain ⟨c'⟩ := c'
  cases Option.some.inj hkey'
  exact ⟨_, hi⟩

theorem setupWith_ready {lab : Lab τ σ} {ts : BodyId → LinkTree} {reset : Bool} (hm : lab.DistinctMasters ts)
    {cfg : Config} {backend : Dynamics.Backend} {L : Lab τ σ}
    (hL : lab.setupWith cfg backend reset = (L, none)) : L.Ready ∧ L.run.forceStart = [] := by
  unfold setupWith at hL
  dsimp only at hL
  set l₀ := lab.modifySim fun s =>
    { s with runTimeStep := cfg.timeStep, currentFrame := if reset then 0 else lab.sim.lastFrame,
             runsSetUp := s.runsSetUp + 1 }
  -- the setup's first change leaves the world, the items and the assembly alone
  obtain ⟨a, cm, clones, hclone, hnd, hlen, hidx⟩ := cloneItems_world (⟨hm.nodup, hm.indexed⟩ : l₀.DistinctMasters ts)
  rw [hclone] at hL
  dsimp only at hL
  have hpairs : (l₀.world.bodies.zip clones).toList.map Prod.snd = clones.toList := by
    rw [Array.toList_zip, List.map_snd_zip hlen]
  split at hL
  · cases hL
  rename_i lab₄ bodies hprep
  -- the states, the kinematics and the controllers leave the finished assembly as built
  have hbuilt : lab₄.assembly.asBuilt = (a.finalizeClones cm).1.asBuilt := by
    rw [(prepareBodies_fresh cfg _ _ _ _ _ hprep (by simp)).1, assembly_withAssembly]
    obtain ⟨hb, hl⟩ := updateKinematics_keeps _ clones
    rw [Assembly.asBuilt_eq_iff.2 ⟨hb, hl⟩]
    split
    · rfl
    · exact asBuilt_applyStates _ _ fun p hp => hidx p.2 (hpairs ▸ List.mem_map_of_mem hp)
  have hsub : (bodies.toList.map SimBody.body).Sublist clones.toList := by
    have h := prepareBodies_sublist cfg _ _ _ _ _ hprep
    rw [hpairs] at h
    simpa using h
  obtain ⟨hrun, hasm⟩ := launch_keeps _ (congrArg Prod.snd hL)
  rw [hL] at hrun hasm
  have hmap : L.run.bodies.toList.map SimBody.body = bodies.toList.map SimBody.body := by
    rw [hrun, (resolveDetector_keeps _).1]
    simp [Lab.run, Lab.modifySim, Run.rebuildActive]
  have hLasm : L.assembly.asBuilt = (a.finalizeClones cm).1.asBuilt := by
    rw [hasm, (resolveDetector_keeps _).2.2.2]
    exact hbuilt
  obtain ⟨hb', hl'⟩ := Assembly.asBuilt_eq_iff.1 hLasm
  refine ⟨⟨?_, ⟨?_, fun b hb => ?_⟩⟩, ?_⟩
  · rw [hrun]
    exact Run.ActiveListed.of_places (Run.activeListed_rebuildActive _) (by rw [(resolveDetector_keeps _).1]; rfl)
      (by rw [(resolveDetector_keeps _).2.1]; rfl)
  · rw [hmap]
    exact hsub.nodup hnd
  · rw [hmap] at hb
    obtain ⟨t, ht⟩ := hidx b (hsub.subset hb)
    exact ⟨t, Assembly.Indexed.congr hb' hl' ht⟩
  · rw [hrun, forceStart_resolveDetector]
    rfl

theorem setup_ready {lab : Lab τ σ} {ts : BodyId → LinkTree} {reset : Bool} (hm : lab.DistinctMasters ts)
    (hs : (lab.setup reset).2 = none) : (lab.setup reset).1.Ready ∧ (lab.setup reset).1.run.forceStart = [] := by
  rcases hp : lab.setup reset with ⟨L, f⟩
  rw [hp] at hs
  dsimp only at hs ⊢
  subst hs
  unfold setup at hp
  dsimp only at hp
  split at hp
  · simp at hp
  · simp at hp
  · split at hp
    · exact setupWith_ready hm hp
    · simp at hp

/-! ## The force clocks -/

/-- The table and the last number given to a force. -/
def table (x : Lab τ σ) : Perturbations × Nat := (x.sim.perturb, x.sim.pertSeq)

/-- What the force clocks depend on: the table and the run's clock. -/
def clocks (x : Lab τ σ) : (Perturbations × Nat) × List (Nat × Float) := (x.table, x.run.forceStart)

/-- Every force of the table and every clock entry has a number the
simulator has given out. -/
def Numbered (x : Lab τ σ) : Prop :=
  (∀ f ∈ x.sim.perturb.forces, f.seq ≤ x.sim.pertSeq) ∧ ∀ s, (x.run.forceStart.lookup s).isSome → s ≤ x.sim.pertSeq

theorem Numbered.of_clocks {x y : Lab τ σ} (hc : y.clocks = x.clocks) (hx : x.Numbered) : y.Numbered := by
  simp only [clocks, table, Prod.mk.injEq] at hc
  obtain ⟨⟨hp, hs⟩, hf⟩ := hc
  unfold Numbered
  rw [hp, hs, hf]
  exact hx

section Clocks

variable (x : Lab τ σ)

theorem clocks_modifyRun {f : Run → Run} (hf : ∀ r, (f r).forceStart = r.forceStart) :
    (x.modifyRun f).clocks = x.clocks := by
  simp only [clocks, run_view_modifyRun x Run.forceStart hf]
  rfl

theorem clocks_freeze (k : Nat) : (x.freeze k).clocks = x.clocks := by
  unfold freeze
  dsimp only
  split
  · rfl
  · exact clocks_modifyRun _ fun _ => rfl

theorem clocks_runAllControllers : x.runAllControllers.clocks = x.clocks := by
  have hslot : ∀ (y : Lab τ σ) env k sb si, (runSlot env k sb y si).clocks = y.clocks := by
    intro y env k sb si
    have hdrive : (y.driveController env (sb.slots[si]!).controller).1.clocks = y.clocks := by
      unfold driveController
      dsimp only
      split
      · rfl
      · split <;> rfl
    unfold runSlot stopSlot
    dsimp only
    split
    · rfl
    · split <;> rename_i y' _ heq <;> rw [heq] at hdrive
      · exact hdrive
      · rw [← hdrive]
        split
        · exact (clocks_freeze _ k).trans (clocks_modifyRun _ fun _ => rfl)
        · exact clocks_modifyRun _ fun _ => rfl
  refine foldl_keeps clocks _ (fun y k => ?_) _ _
  unfold runControllers
  dsimp only
  rw [foldl_keeps clocks _ (fun y si => hslot y _ k _ si)]
  split <;> rfl

theorem clocks_holdForcedPoses (p : Perturbations) : (x.holdForcedPoses p).clocks = x.clocks := by
  unfold holdForcedPoses
  rw [← Array.foldl_toList]
  refine foldl_keeps clocks _ (fun y fp => ?_) _ _
  unfold holdForcedPose
  dsimp only
  split
  · rfl
  · split
    · rfl
    · split <;> rfl

theorem clocks_detectCollisions : x.detectCollisions.clocks = x.clocks := by
  unfold detectCollisions
  split
  · rfl
  · rename_i d _
    have hquery : (x.queryDetector d).1.clocks = x.clocks := by
      unfold queryDetector
      split
      · exact clocks_modifyRun _ fun _ => rfl
      · rfl
    split
    rename_i y pairs heq
    rw [heq] at hquery
    unfold useContacts
    dsimp only at hquery ⊢
    rw [clocks_modifyRun]
    · split
      · exact hquery
      · exact hquery
    · exact fun _ => rfl

theorem clocks_advance : x.advance.1.clocks = x.clocks := by
  unfold advance
  split
  · rfl
  · dsimp only
    split <;> rfl

theorem clocks_flush : x.flush.clocks = x.clocks := by
  have hfold := foldl_keeps (fun acc : Lab τ σ × Nat × Int => acc.1.clocks) (flushBody x.run)
    (fun acc k => by
      unfold flushBody
      dsimp only
      split
      · rfl
      · exact clocks_modifyRun _ fun _ => rfl) (List.range x.run.bodies.size) (x, 0, -1)
  unfold flush
  dsimp only at hfold ⊢
  rcases hf : (List.range x.run.bodies.size).foldl (flushBody x.run) (x, 0, -1) with ⟨l, total, last⟩
  rw [hf] at hfold
  dsimp only at hfold ⊢
  split
  · exact hfold
  · exact hfold

theorem clocks_modifySim {f : Simulator τ → Simulator τ}
    (hf : ∀ s, (f s).perturb = s.perturb ∧ (f s).pertSeq = s.pertSeq ∧ (f s).run = s.run) :
    (x.modifySim f).clocks = x.clocks := by
  simp only [clocks, table, modifySim, run, hf]

theorem clocks_measure (f : Observe.Meter → Observe.Meter) : (x.measure f).clocks = x.clocks := rfl

theorem clocks_completeStep (h : Handlers τ σ) : (x.completeStep h).clocks = x.clocks := by
  have hbuffer : ∀ y : Lab τ σ, y.bufferAll.clocks = y.clocks := by
    intro y
    have hbuf : ∀ (l : Lab τ σ) k frame t, (l.bufferResults k frame t).clocks = l.clocks := fun l k frame t => by
      unfold bufferResults
      exact clocks_modifyRun _ fun _ => rfl
    unfold bufferAll
    dsimp only
    exact foldl_keeps clocks _ (fun l k => hbuf l k _ _) _ _
  unfold completeStep
  dsimp only
  split
  · rw [clocks_flush, clocks_measure, hbuffer, clocks_modifySim, clocks_modifyRun]
    · exact fun _ => rfl
    · exact fun _ => ⟨rfl, rfl, rfl⟩
  · rw [clocks_measure, hbuffer, clocks_modifySim, clocks_modifyRun]
    · exact fun _ => rfl
    · exact fun _ => ⟨rfl, rfl, rfl⟩

theorem clocks_clearForces : x.clearForces.clocks = x.clocks := by
  unfold clearForces
  rw [← Array.foldl_toList]
  refine foldl_keeps clocks _ (fun y k => ?_) _ _
  rfl

theorem clocks_opened (reset : Bool) : (x.opened reset).clocks = x.clocks := by
  have hrest : ∀ (y : Lab τ σ) span st, ((y.trace span).setState st).clocks = y.clocks := fun _ _ _ => rfl
  unfold opened
  dsimp only
  rw [hrest]
  split
  · exact clocks_modifyRun _ fun _ => rfl
  · rfl

theorem table_forceLapsed (now : Float) (f : ForceCommand) : (x.forceLapsed now f).1.table = x.table := by
  rw [forceLapsed_eq]
  split <;> rfl

theorem table_applyForce (now : Float) (f : ForceCommand) : (x.applyForce now f).table = x.table := by
  rw [applyForce_eq]
  split
  · rfl
  · split
    · exact table_forceLapsed x now f
    · exact table_forceLapsed x now f

theorem table_applyPerturbations (p : Perturbations) : (x.applyPerturbations p).table = x.table := by
  unfold applyPerturbations
  dsimp only
  rw [← Array.foldl_toList, ← Array.foldl_toList,
    foldl_keeps table applyString (fun y s => by rw [applyString_eq]; split <;> rfl),
    foldl_keeps table (applyForce _) (fun y f => table_applyForce y _ f)]

theorem table_withAssembly (a : Assembly) : (x.withAssembly a).table = x.table := rfl

theorem table_applyStates (pairs : List (Nat × BodyId)) : (x.applyStates pairs).table = x.table := by
  unfold applyStates
  apply foldl_keeps
  intro y p
  obtain ⟨i, c⟩ := p
  dsimp only
  split
  · split <;> rfl
  · rfl

theorem table_initController (cfg : Config) (c : BodyId) (att : Attachment) :
    (initController cfg c att x).1.table = x.table := by
  unfold initController
  split <;> rfl

theorem table_prepareSlots (cfg : Config) (bi : BodyItem) (c : BodyId) :
    ∀ (atts : List Attachment) (y : Lab τ σ) slots, (prepareSlots cfg bi c atts y slots).1.table = y.table
  | [], _, _ => rfl
  | att :: rest, y, slots => by
    unfold prepareSlots
    dsimp only
    split
    · split <;> exact table_initController y cfg c att
    · exact (table_prepareSlots cfg bi c rest _ _).trans (table_initController y cfg c att)

theorem table_prepareBodies (cfg : Config) :
    ∀ (pairs : List (Nat × BodyId)) (lab : Lab τ σ) (bodies : Array SimBody),
      (prepareBodies cfg pairs lab bodies).1.table = lab.table
  | [], _, _ => rfl
  | (i, c) :: rest, lab, bodies => by
    have hprep := table_prepareSlots cfg (lab.items.getD i default) c
      (lab.items.getD i default).controllers.toList lab #[]
    unfold prepareBodies prepareControllers
    split
    · rename_i heq
      rw [heq] at hprep
      exact hprep
    · rename_i lab₁ heq
      rw [heq] at hprep
      exact (table_prepareBodies cfg rest lab₁ bodies).trans hprep
    · rename_i lab₁ slots heq
      rw [heq] at hprep
      exact (table_prepareBodies cfg rest lab₁ _).trans hprep

theorem table_resolveDetector : x.resolveDetector.table = x.table := by
  unfold resolveDetector
  dsimp only
  split
  · rfl
  · split
    · rfl
    · split <;> rfl

theorem table_openRecordings (reset : Bool) (capacity : Int) (bodies : Array SimBody) :
    (x.openRecordings reset capacity bodies).table = x.table := by
  unfold openRecordings
  rw [← Array.foldl_toList]
  refine foldl_keeps table _ (fun y sb => ?_) _ _
  rfl

theorem table_launch (cfg : Config) (backend : Dynamics.Backend) (reset : Bool) (startFrame : Int)
    (bodies : Array SimBody) : (x.launch cfg backend reset startFrame bodies).1.table = x.table := by
  unfold launch
  dsimp only
  split
  all_goals
    split
    · rfl
    · exact table_openRecordings _ reset _ bodies

theorem table_setup (reset : Bool) : (x.setup reset).1.table = x.table := by
  unfold setup
  dsimp only
  split
  · rfl
  · rfl
  · split
    · unfold setupWith
      dsimp only
      split
      · rfl
      · split
        all_goals
          rename_i lab₂ _ heqp
          have hprep := congrArg (fun p => p.1.table) heqp
          simp only [table_prepareBodies, apply_ite Lab.table, table_withAssembly, table_applyStates, ite_self] at hprep
        · exact hprep.symm
        · rw [table_launch, table_resolveDetector]
          exact hprep.symm
    · rfl

end Clocks

end Lab

/-- Drivers whose hooks leave the force clock alone, and whose hooks and
observers keep every force number one the simulator gave out. -/
structure Handlers.KeepsForceClock (h : Handlers τ σ) : Prop where
  clock : ∀ id task (x : Lab τ σ), (h.hook id task x).1.run.forceStart = x.run.forceStart
  hook : ∀ id task (x : Lab τ σ), x.Numbered → (h.hook id task x).1.Numbered
  event : ∀ ev (x : Lab τ σ), x.Numbered → (h.event ev x).Numbered

namespace Lab

variable {h : Handlers τ σ} {x l : Lab τ σ}

theorem step_after_controllers (P : Lab τ σ → Prop) (hP : ∀ y z, z.clocks = y.clocks → P y → P z)
    (hhook : ∀ id task y, P y → P (h.hook id task y).1) (hx : P (x.controllersStart h)) (hs : x.step h = (l, none)) :
    P l := by
  have hphase : ∀ y ph, P y → P (y.runPhase h ph).1 := fun y ph hy => runPhase_preserves y P hhook ph hy
  rw [step_eq_throughEngine] at hs
  obtain ⟨y, hy, hs⟩ := continueWith_eq_none hs
  obtain ⟨z, hz, hs⟩ := continueWith_eq_none hs
  rw [Prod.mk.injEq] at hs
  obtain ⟨rfl, -⟩ := hs
  unfold throughEngine at hy
  obtain ⟨y₁, hy₁, hy⟩ := continueWith_eq_none hy
  obtain ⟨y₂, hy₂, hy⟩ := continueWith_eq_none hy
  -- the controllers and the pre hooks, the mid hooks, then detection and the engine
  have h₁ : P y₁ := by
    have := hphase _ .pre (hP _ _ (clocks_runAllControllers _) hx)
    rwa [hy₁] at this
  have h₂ : P y₂ := by
    have := hphase _ .mid h₁
    rwa [hy₂] at this
  have h₃ : P y := by
    have hd : P (if y₂.run.detecting then y₂.detectCollisions else y₂) := by
      split
      · exact hP _ _ (clocks_detectCollisions _) h₂
      · exact h₂
    have := hP _ _ (clocks_advance _) hd
    rwa [hy] at this
  -- the forced poses again and the post hooks, then the end of the step
  have h₄ : P z := by
    have hheld : P (if (x.cleared h).sim.perturb.isEmpty then y else y.holdForcedPoses (x.cleared h).sim.perturb) := by
      split
      · exact h₃
      · exact hP _ _ (clocks_holdForcedPoses _ _) h₃
    have := hphase _ .post hheld
    rwa [hz] at this
  exact hP _ _ (clocks_completeStep _ h) h₄

theorem Numbered.beginStep (hc : h.KeepsForceClock) (hx : x.Numbered) : (x.beginStep h).Numbered := by
  unfold Lab.beginStep
  dsimp only
  split
  · refine hc.event _ _ (Numbered.of_clocks ?_ hx)
    rw [clocks_measure, clocks_modifyRun, clocks_modifySim]
    · exact fun _ => ⟨rfl, rfl, rfl⟩
    · exact fun _ => rfl
  · exact Numbered.of_clocks (clocks_modifySim _ fun _ => ⟨rfl, rfl, rfl⟩) hx

theorem Numbered.controllersStart (hk : h.KeepsBuild) (hc : h.KeepsForceClock) (hx : x.Numbered) :
    (x.controllersStart h).Numbered := by
  have hcl : (x.cleared h).Numbered := Numbered.of_clocks (clocks_clearForces _) (hx.beginStep hc)
  have hclock : (x.cleared h).run.forceStart = x.run.forceStart := by
    rw [cleared, (x.beginStep h).clearForces_keeps.1, run_beginStep x hk]
    split <;> rfl
  have htable : (x.controllersStart h).table = (x.cleared h).table := by
    unfold Lab.controllersStart
    dsimp only
    split
    · rfl
    · exact (congrArg Prod.fst (clocks_holdForcedPoses _ _)).trans (table_applyPerturbations _ _)
  simp only [table, Prod.mk.injEq] at htable
  refine ⟨fun f hf => ?_, fun s hs => ?_⟩
  · rw [htable.1] at hf
    rw [htable.2]
    exact hcl.1 f hf
  · rw [htable.2]
    rw [lookup_controllersStart hk s] at hs
    cases hl : x.run.forceStart.lookup s with
    | some t => exact hcl.2 s (by rw [hclock, hl]; rfl)
    | none =>
      rw [hl, Option.none_or] at hs
      split at hs
      · rename_i hex
        obtain ⟨f, hf, rfl, -⟩ := hex
        exact hcl.1 f (Array.mem_toList_iff.1 hf)
      · simp at hs

theorem Numbered.step (hk : h.KeepsBuild) (hc : h.KeepsForceClock) (hx : x.Numbered) (hs : x.step h = (l, none)) :
    (l.measure (·.observeStep 0)).Numbered :=
  Numbered.of_clocks (clocks_measure _ _) (step_after_controllers Numbered (fun _ _ hyz hy => hy.of_clocks hyz)
    (fun id task y hy => hc.hook id task y hy) (hx.controllersStart hk hc) hs)

theorem forceStart_step (hc : h.KeepsForceClock) (hs : x.step h = (l, none)) :
    l.run.forceStart = (x.controllersStart h).run.forceStart :=
  step_after_controllers (fun y => y.run.forceStart = (x.controllersStart h).run.forceStart)
    (fun _ _ hyz hy => (congrArg Prod.snd hyz).trans hy) (fun id task y hy => (hc.clock id task y).trans hy) rfl hs

theorem Numbered.holdRun (hc : h.KeepsForceClock) (hx : x.Numbered) : (x.holdRun h).1.Numbered := by
  have hflush : x.flush.Numbered := hx.of_clocks (clocks_flush x)
  unfold Lab.holdRun
  dsimp only
  split
  · exact hc.event _ _ hflush
  · exact hc.event _ _ (hc.event _ _ hflush)

theorem forceStart_holdRun (hk : h.KeepsBuild) : (x.holdRun h).1.run.forceStart = x.run.forceStart := by
  have hflush := congrArg Prod.snd (clocks_flush x)
  unfold holdRun
  dsimp only
  split
  · rw [(hk.event _ _).1]
    exact hflush
  · rw [(hk.event _ _).1, (hk.event _ _).1]
    exact hflush

theorem mem_replaceByKey {α κ : Type} [BEq κ] (key : α → κ) (xs : Array α) (a : α) :
    a ∈ replaceByKey key xs a ∧ ∀ b ∈ replaceByKey key xs a, b ∈ xs ∨ b = a := by
  unfold replaceByKey
  split
  · rename_i i hi
    obtain ⟨hlt, -⟩ := Array.findIdx?_eq_some_iff_getElem.1 hi
    rw [Array.set!_eq_setIfInBounds]
    exact ⟨Array.mem_setIfInBounds hlt, fun b hb => Array.mem_or_eq_of_mem_setIfInBounds hb⟩
  · exact ⟨Array.mem_push_self, fun b hb => Array.mem_push.1 hb⟩

theorem Numbered.setExternalForce (hx : x.Numbered) (item : Nat) (link : Option Int) (point force : Vec3)
    (duration : Float) :
    let y := x.setExternalForce item link point force duration
    (⟨item, linkIndex link, y.sim.pertSeq, point, force, duration⟩ : ForceCommand) ∈ y.sim.perturb.forces ∧
      y.run.forceStart.lookup y.sim.pertSeq = none ∧ y.Numbered := by
  obtain ⟨hmem, hold⟩ := mem_replaceByKey ForceCommand.key x.sim.perturb.forces
    ⟨item, linkIndex link, x.sim.pertSeq + 1, point, force, duration⟩
  have hfresh : x.run.forceStart.lookup (x.sim.pertSeq + 1) = none := by
    cases hl : x.run.forceStart.lookup (x.sim.pertSeq + 1) with
    | none => rfl
    | some t =>
      have := hx.2 _ (by rw [hl]; rfl)
      omega
  refine ⟨hmem, hfresh, fun f hf => ?_, fun s hs => Nat.le_succ_of_le (hx.2 s hs)⟩
  rcases hold f hf with hf | rfl
  · exact Nat.le_succ_of_le (hx.1 f hf)
  · exact Nat.le_refl _

theorem Numbered.setup {reset : Bool} (hnum : ∀ f ∈ x.sim.perturb.forces, f.seq ≤ x.sim.pertSeq)
    (hclock : (x.setup reset).1.run.forceStart = []) : (x.setup reset).1.Numbered := by
  have ht := table_setup x reset
  simp only [table, Prod.mk.injEq] at ht
  refine ⟨fun f hf => ?_, fun s hs => ?_⟩
  · rw [ht.1] at hf
    rw [ht.2]
    exact hnum f hf
  · rw [hclock] at hs
    simp at hs

/-! ## Over a run -/

/-- The perturbations over a run.  Start a run over a world whose items have
distinct masters indexed over their trees, with a table whose forces hold
numbers the simulator gave out, under drivers that keep the lab as built and
the force clock alone.  The run loops from a lab `L₀`; every step of the loop
acts on the table as `ActsInStep` says and starts numbered; the first step
starts with an empty clock, each later one with the clock its predecessor's
controllers started with; and a force set on a numbered lab takes a number
no clock entry holds, so its clock starts at the first step that applies it. -/
theorem perturbations_act_at_each_step (hk : h.KeepsBuild) (hc : h.KeepsForceClock) {ts : BodyId → LinkTree}
    {lab : Lab τ σ} (hm : lab.DistinctMasters ts) (hnum : ∀ f ∈ lab.sim.perturb.forces, f.seq ≤ lab.sim.pertSeq)
    (hrun : lab.sim.run = none) {reset : Bool} (hs : (lab.setup reset).2 = none) (fuel : Nat) :
    ∃ L₀ : Lab τ σ, lab.start h fuel reset = ((loop h fuel L₀).1.teardown h (loop h fuel L₀).2, none) ∧
      (∀ L ∈ stepLabs h fuel L₀, L.ActsInStep h ∧ L.Numbered) ∧
      (∀ L ∈ (stepLabs h fuel L₀).head?, L.run.forceStart = []) ∧
      (stepLabs h fuel L₀).IsChain (fun L L' => L'.run.forceStart = (L.controllersStart h).run.forceStart) ∧
      ∀ x : Lab τ σ, x.Numbered → ∀ item link point force duration,
        let y := x.setExternalForce item link point force duration
        (⟨item, linkIndex link, y.sim.pertSeq, point, force, duration⟩ : ForceCommand) ∈ y.sim.perturb.forces ∧
          y.run.forceStart.lookup y.sim.pertSeq = none ∧ y.Numbered := by
  obtain ⟨hready, hclock⟩ := setup_ready hm hs
  have hsetup : lab.setup reset = ((lab.setup reset).1, none) := Prod.ext rfl hs
  -- holds keep the clock, and a step ends with the clock its controllers started with
  have hhold : ∀ (x l : Lab τ σ) b, x.holdRun h = (l, b) → l.run.forceStart = x.run.forceStart :=
    fun x l b hx => (congrArg (fun p => p.1.run.forceStart) hx).symm.trans (forceStart_holdRun hk)
  refine ⟨_, start_of_setup h fuel reset hrun hsetup, fun L hL => ?_, fun L hL => ?_,
    isChain_stepLabs (fun L => L.run.forceStart) (fun L f => f = (L.controllersStart h).run.forceStart)
      (fun _ _ hx => forceStart_step hc hx) (fun _ => rfl) hhold fuel _, fun x hx => hx.setExternalForce⟩
  · -- the announced run is ready and numbered, and every step keeps both
    have hL := forall_stepLabs (fun L => L.Ready ∧ L.Numbered)
      (fun x l hx hxl => ⟨hx.1.step hk hxl, hx.2.step hk hc hxl⟩)
      (fun x l hx hxl => ⟨hx.1.holdRun hk hxl, by have := hx.2.holdRun hc; rwa [hxl] at this⟩) fuel _
      ⟨hready.of_build (by rw [build_event hk, build_opened]),
        hc.event _ _ ((Numbered.setup hnum hclock).of_clocks (clocks_opened _ reset))⟩ L hL
    exact ⟨actsInStep hk hL.1.active hL.1.indexed, hL.2⟩
  · rw [head_stepLabs (fun L => L.run.forceStart) hhold fuel _ L hL, (hk.event _ _).1]
    exact (congrArg Prod.snd (clocks_opened _ reset)).trans hclock

/-- A ball pushed up for half a second. -/
def pushedBallLab : Lab Unit Unit where
  assembly := { links := #[{ name := "ball", body := some ⟨0⟩, index := 0, jointType := .free, mass := 1.0 }],
                bodies := #[{ name := "ball", modelName := "ball", root := some ⟨0⟩, links := #[⟨0⟩] }] }
  items := #[{ name := "ball", master := ⟨0⟩ }]
  controllers := #[]
  world := { name := "world", bodies := #[0] }
  sim := { Simulator.create (some default) {} with
           hasWorld := true
           pertSeq := 1
           perturb := { forces := #[{ item := 0, link := 0, seq := 1, point := Vec3.zero, force := Vec3.unitZ,
                                      duration := 0.5 }] } }
  session := ()

theorem pushedBallLab_perturbations_act :
    ∃ L₀ : Lab Unit Unit, pushedBallLab.start quietHandlers 3 false =
        ((loop quietHandlers 3 L₀).1.teardown quietHandlers (loop quietHandlers 3 L₀).2, none) ∧
      ∀ L ∈ stepLabs quietHandlers 3 L₀, L.ActsInStep quietHandlers ∧ L.Numbered := by
  have hm : pushedBallLab.DistinctMasters fun _ => .node ⟨0⟩ [] :=
    ⟨by decide, fun i hi => by
      simp only [pushedBallLab, List.mem_singleton] at hi
      subst hi
      exact Assembly.Indexed.of_single rfl rfl rfl rfl rfl rfl rfl rfl⟩
  have hnum : ∀ f ∈ pushedBallLab.sim.perturb.forces, f.seq ≤ pushedBallLab.sim.pertSeq := by decide
  have hs : (pushedBallLab.setup false).2 = none := Option.isNone_iff_eq_none.1 (by decide +kernel)
  obtain ⟨L₀, hstart, hsteps, -⟩ := perturbations_act_at_each_step
    (⟨fun _ _ => ⟨rfl, rfl⟩, fun _ _ _ => rfl⟩ : quietHandlers.KeepsBuild)
    ⟨fun _ _ _ => rfl, fun _ _ _ hx => hx, fun _ _ hx => hx⟩ hm hnum rfl hs 3
  exact ⟨L₀, hstart, hsteps⟩

end Lab

end Multibody.Sim
