import Multibody.Proofs.Schedule.Stages
import Multibody.Proofs.Dynamics.Pass

/-!
# What a step's perturbations add to the links

`Lab.clearForces` clears the wrenches of the active bodies' links;
`Lab.applyPerturbations` then adds, in table order, each force that has not
lapsed (`Lab.lapsedAt`) and each string to the link it is aimed at
(`Lab.target?`).  Each entry touches only its own link (`Lab.Aim`), so a
link's wrench is read through the table (`wrench_applyPerturbations`), and
the clocks gain the newly aimed timed forces
(`lookup_forceStart_applyPerturbations`).
-/

namespace Multibody

/-- A force with its moment about a point. -/
structure Wrench where
  force : Vec3
  torque : Vec3

instance : Add Wrench := ⟨fun a b => ⟨a.force + b.force, a.torque + b.torque⟩⟩

/-- No force and no moment. -/
def Wrench.zero : Wrench := ⟨Vec3.zero, Vec3.zero⟩

/-- The external force and torque a link carries. -/
def Link.wrench (l : Link) : Wrench := ⟨l.extForce, l.extTorque⟩

namespace Link

variable (l : Link) (p f : Vec3)

@[simp] theorem wrench_addExternalForce :
    (l.addExternalForce p f).wrench = l.wrench + ⟨f, (p - l.position).cross f⟩ := rfl

@[simp] theorem wrench_clearExternalForces : l.clearExternalForces.wrench = Wrench.zero := rfl

@[simp] theorem withoutMotion_addExternalForce : (l.addExternalForce p f).withoutMotion = l.withoutMotion := rfl

@[simp] theorem pose_addExternalForce : (l.addExternalForce p f).pose = l.pose := rfl

@[simp] theorem withoutMotion_clearExternalForces : l.clearExternalForces.withoutMotion = l.withoutMotion := rfl

@[simp] theorem pose_clearExternalForces : l.clearExternalForces.pose = l.pose := rfl

end Link

theorem foldl_read {α β γ : Type} (P : β → Prop) (read : β → γ) (step : β → α → β) (g : γ → α → γ)
    (hP : ∀ x a, P x → P (step x a)) (hg : ∀ x a, P x → read (step x a) = g (read x) a) :
    ∀ (l : List α) (x : β), P x → read (l.foldl step x) = l.foldl g (read x)
  | [], _, _ => rfl
  | a :: l, x, hx => by
    rw [List.foldl_cons, List.foldl_cons, foldl_read P read step g hP hg l (step x a) (hP x a hx), hg x a hx]

theorem foldl_addSome {α W : Type} [Add W] (o : α → Option W) :
    ∀ (l : List α) (c : W), l.foldl (fun c a => ((o a).map (c + ·)).getD c) c = (l.filterMap o).foldl (· + ·) c
  | [], _ => rfl
  | a :: l, c => by
    rw [List.foldl_cons, List.filterMap_cons]
    cases o a with
    | none => exact foldl_addSome o l c
    | some w => exact foldl_addSome o l (c + w)

namespace Assembly

theorem wrench_clearExternalForces (a : Assembly) (b : BodyId) (l : LinkId) :
    ((a.clearExternalForces b).link l).wrench =
      if l ∈ (a.body b).links ∧ l.idx < a.links.size then Wrench.zero else (a.link l).wrench := by
  unfold clearExternalForces
  rw [← Array.foldl_toList]
  -- each visit zeroes the link it visits
  have hvisits : ∀ (ls : List LinkId) (x : Assembly), x.links.size = a.links.size →
      ((ls.foldl (fun a l => a.modifyLink l Link.clearExternalForces) x).link l).wrench =
        if l ∈ ls ∧ l.idx < a.links.size then Wrench.zero else (x.link l).wrench := by
    intro ls
    induction ls with
    | nil => intro x _; simp
    | cons l' ls ih =>
      intro x hx
      rw [List.foldl_cons, ih _ (by simpa using hx), link_modifyLink]
      by_cases h : l' = l
      · subst h
        by_cases hr : l'.idx < a.links.size <;> simp [hr, hx]
      · by_cases hm : l ∈ ls <;> simp [h, hm, Ne.symm h]
  rw [hvisits _ a rfl]
  simp only [Array.mem_toList_iff]

theorem clearExternalForces_keeps (a : Assembly) (b : BodyId) :
    (a.clearExternalForces b).bodies = a.bodies ∧ (a.clearExternalForces b).links.size = a.links.size ∧
      ∀ l, ((a.clearExternalForces b).link l).withoutMotion = (a.link l).withoutMotion ∧
        ((a.clearExternalForces b).link l).pose = (a.link l).pose := by
  unfold clearExternalForces
  refine Array.foldl_induction (fun _ (x : Assembly) => x.bodies = a.bodies ∧ x.links.size = a.links.size ∧
    ∀ l, (x.link l).withoutMotion = (a.link l).withoutMotion ∧ (x.link l).pose = (a.link l).pose)
    ⟨rfl, rfl, fun _ => ⟨rfl, rfl⟩⟩ ?_
  rintro i x ⟨hb, hs, hl⟩
  refine ⟨hb, by simpa using hs, fun l => ?_⟩
  rw [link_modifyLink_keeps x Link.withoutMotion Link.withoutMotion_clearExternalForces,
    link_modifyLink_keeps x Link.pose Link.pose_clearExternalForces]
  exact hl l

end Assembly

namespace Sim

variable {τ σ : Type}

/-- What a force adds to the wrench of link `lk`: the force, and its moment
about the link's origin from the world point where it acts. -/
def ForceCommand.wrenchOn (f : ForceCommand) (lk : Link) : Wrench :=
  ⟨f.force, (lk.worldPoint f.point - lk.position).cross f.force⟩

/-- What a string adds to link `lk` of a body of mass `m`: a spring of
stiffness `100·m` pulling its attachment point towards its goal, and its
moment about the link's origin. -/
def StringCommand.wrenchOn (s : StringCommand) (m : Float) (lk : Link) : Wrench :=
  let anchor := lk.worldPoint s.attach
  let f := (s.goal - anchor).scale (stringStiffness * m)
  ⟨f, (anchor - lk.position).cross f⟩

namespace Lab

variable (lab : Lab τ σ)

/-- The body and link that an entry of the table for link `link` of item
`item` acts on: the item takes part in the run with an active body, and the
link index is in range of that body. -/
def target? (item : Nat) (link : Int) : Option (BodyId × LinkId) :=
  match lab.run.bodyOf? item with
  | none => none
  | some k =>
    let sb := lab.run.bodies[k]!
    if !sb.active then none else (lab.assembly.linkAt? sb.body link).map fun l => (sb.body, l)

/-- Whether a force has lapsed at `now`: it has a duration, and the time
since its clock started, at its entry in the clocks or else at `now`, has
reached it. -/
def lapsedAt (now : Float) (f : ForceCommand) : Bool :=
  if f.duration > 0.0 then decide (now - (lab.run.forceStart.lookup f.seq).getD now ≥ f.duration - timeEpsilon)
  else false

/-- What force `f` adds to link `l` at `now`: its wrench, when it is aimed at
`l` and has not lapsed. -/
def forceOn (now : Float) (l : LinkId) (f : ForceCommand) : Option Wrench :=
  match lab.target? f.item f.link with
  | some (_, l') => if l' = l ∧ lab.lapsedAt now f = false then some (f.wrenchOn (lab.assembly.link l)) else none
  | none => none

/-- What string `s` adds to link `l`: its wrench, when it is aimed at `l`. -/
def stringOn (l : LinkId) (s : StringCommand) : Option Wrench :=
  match lab.target? s.item s.link with
  | some (b, l') => if l' = l then some (s.wrenchOn (lab.assembly.totalMass b) (lab.assembly.link l)) else none
  | none => none

/-- What the table's entries read of a lab: the run's bodies, the bodies and
links of the assembly as built, and the poses of the links. -/
def aim : Array SimBody × Array Body × (LinkId → Link) × (LinkId → Mat4) :=
  (lab.run.bodies, lab.assembly.bodies, fun l => (lab.assembly.link l).withoutMotion,
   fun l => (lab.assembly.link l).pose)

/-! ## What one entry does -/

@[simp] theorem run_withAssembly (a : Assembly) : (lab.withAssembly a).run = lab.run := rfl

@[simp] theorem assembly_withAssembly (a : Assembly) : (lab.withAssembly a).assembly = a := rfl

@[simp] theorem assembly_forceLapsed (now : Float) (f : ForceCommand) :
    (lab.forceLapsed now f).1.assembly = lab.assembly := by
  unfold forceLapsed
  split
  · split <;> rfl
  · rfl

theorem forceLapsed_eq (now : Float) (f : ForceCommand) :
    lab.forceLapsed now f =
      (if f.duration > 0.0 ∧ lab.run.forceStart.lookup f.seq = none then
        lab.modifyRun fun r => { r with forceStart := (f.seq, now) :: r.forceStart }
       else lab, lab.lapsedAt now f) := by
  unfold forceLapsed lapsedAt
  split
  · rename_i hd
    cases hl : lab.run.forceStart.lookup f.seq with
    | none => simp [hd]
    | some t => simp [hd]
  · rename_i hd
    simp [hd]

theorem applyForce_eq (now : Float) (f : ForceCommand) :
    lab.applyForce now f =
      match lab.target? f.item f.link with
      | none => lab
      | some (_, l) =>
        if lab.lapsedAt now f then (lab.forceLapsed now f).1
        else (lab.forceLapsed now f).1.withAssembly
          (lab.assembly.modifyLink l (·.addExternalForce ((lab.assembly.link l).worldPoint f.point) f.force)) := by
  unfold applyForce target?
  cases hb : lab.run.bodyOf? f.item with
  | none => rfl
  | some k =>
    dsimp only
    cases ha : (lab.run.bodies[k]!).active with
    | false => rfl
    | true =>
      simp only [Bool.not_true, Bool.false_eq_true, if_false]
      cases hl : lab.assembly.linkAt? (lab.run.bodies[k]!).body f.link with
      | none => rfl
      | some l =>
        dsimp only [Option.map_some]
        have hsnd : (lab.forceLapsed now f).2 = lab.lapsedAt now f := by rw [forceLapsed_eq]
        have hasm := lab.assembly_forceLapsed now f
        rcases hfl : lab.forceLapsed now f with ⟨l', b⟩
        rw [hfl] at hsnd hasm
        dsimp only at hsnd hasm
        subst hsnd
        cases lab.lapsedAt now f with
        | true => rfl
        | false => simp only [hasm, Bool.false_eq_true, if_false]

theorem applyString_eq (s : StringCommand) :
    lab.applyString s =
      match lab.target? s.item s.link with
      | none => lab
      | some (b, l) =>
        lab.withAssembly (lab.assembly.modifyLink l fun lk =>
          lk.addExternalForce ((lab.assembly.link l).worldPoint s.attach)
            ((s.goal - (lab.assembly.link l).worldPoint s.attach).scale (stringStiffness * lab.assembly.totalMass b))) := by
  unfold applyString target?
  cases hb : lab.run.bodyOf? s.item with
  | none => rfl
  | some k =>
    dsimp only
    cases ha : (lab.run.bodies[k]!).active with
    | false => rfl
    | true =>
      simp only [Bool.not_true, Bool.false_eq_true, if_false]
      cases hl : lab.assembly.linkAt? (lab.run.bodies[k]!).body s.link with
      | none => rfl
      | some l => rfl

/-! ## What the entries read -/

variable {lab} {x y : Lab τ σ}

theorem isSome_run_of_target? {item : Nat} {link : Int} {b : BodyId} {l : LinkId}
    (h : lab.target? item link = some (b, l)) : lab.sim.run.isSome := by
  cases hr : lab.sim.run with
  | some _ => rfl
  | none =>
    have hb : lab.run.bodyOf? item = none := by simp [run, hr, Run.bodyOf?]
    simp [target?, hb] at h

theorem target?_of_aim (h : x.aim = y.aim) (item : Nat) (link : Int) : x.target? item link = y.target? item link := by
  simp only [aim, Prod.mk.injEq] at h
  obtain ⟨hb, hab, -, -⟩ := h
  simp only [target?, Run.bodyOf?, Assembly.linkAt?, Assembly.body, hb, hab]

theorem totalMass_of_aim (h : x.aim = y.aim) (b : BodyId) : x.assembly.totalMass b = y.assembly.totalMass b := by
  simp only [aim, Prod.mk.injEq] at h
  obtain ⟨-, hab, hw, -⟩ := h
  exact Assembly.totalMass_of_withoutMotion hab (fun l => congrFun hw l) b

theorem pose_of_aim (h : x.aim = y.aim) (l : LinkId) : (x.assembly.link l).pose = (y.assembly.link l).pose := by
  simp only [aim, Prod.mk.injEq] at h
  exact congrFun h.2.2.2 l

theorem lapsedAt_of_clocks {now : Float}
    (h : ∀ s, (x.run.forceStart.lookup s).getD now = (y.run.forceStart.lookup s).getD now) (f : ForceCommand) :
    x.lapsedAt now f = y.lapsedAt now f := by
  simp only [lapsedAt, h]

theorem aim_modifyRun {g : Run → Run} (hg : ∀ r, (g r).bodies = r.bodies) : (lab.modifyRun g).aim = lab.aim := by
  have hb : (lab.modifyRun g).run.bodies = lab.run.bodies := by
    cases hr : lab.sim.run <;> simp [run, modifyRun, modifySim, hr, hg]
  simp only [aim, hb]
  rfl

theorem aim_modifyLink {l : LinkId} {g : Link → Link} (hw : ∀ lk, (g lk).withoutMotion = lk.withoutMotion)
    (hp : ∀ lk, (g lk).pose = lk.pose) : (lab.withAssembly (lab.assembly.modifyLink l g)).aim = lab.aim := by
  simp only [aim, Prod.mk.injEq]
  refine ⟨rfl, rfl, funext fun l' => Assembly.link_modifyLink_keeps _ _ hw l l',
    funext fun l' => Assembly.link_modifyLink_keeps _ _ hp l l'⟩

theorem aim_forceLapsed (now : Float) (f : ForceCommand) : (lab.forceLapsed now f).1.aim = lab.aim := by
  rw [forceLapsed_eq]
  split
  · exact aim_modifyRun fun _ => rfl
  · rfl

theorem aim_applyForce (now : Float) (f : ForceCommand) : (lab.applyForce now f).aim = lab.aim := by
  rw [applyForce_eq]
  split
  · rfl
  · split
    · exact aim_forceLapsed now f
    · rw [← (aim_forceLapsed now f : (lab.forceLapsed now f).1.aim = lab.aim), ← assembly_forceLapsed lab now f]
      exact aim_modifyLink (fun _ => rfl) (fun _ => rfl)

theorem aim_applyString (s : StringCommand) : (lab.applyString s).aim = lab.aim := by
  rw [applyString_eq]
  split
  · rfl
  · exact aim_modifyLink (fun _ => rfl) (fun _ => rfl)

/-! ## Reading one link -/

variable (lab)

theorem wrench_addExternalForce_link {l l' : LinkId} (hr : l'.idx < lab.assembly.links.size) (p f : Vec3) :
    ((lab.assembly.modifyLink l' (·.addExternalForce p f)).link l).wrench =
      if l' = l then (lab.assembly.link l).wrench + ⟨f, (p - (lab.assembly.link l).position).cross f⟩
      else (lab.assembly.link l).wrench := by
  rw [Assembly.link_modifyLink]
  by_cases hl : l' = l
  · subst hl
    simp [hr]
  · simp [hl]

theorem wrench_applyForce (now : Float) (f : ForceCommand) (l : LinkId)
    (hr : ∀ b l', lab.target? f.item f.link = some (b, l') → l'.idx < lab.assembly.links.size) :
    ((lab.applyForce now f).assembly.link l).wrench =
      ((lab.forceOn now l f).map ((lab.assembly.link l).wrench + ·)).getD (lab.assembly.link l).wrench := by
  rw [applyForce_eq]
  unfold forceOn
  cases ht : lab.target? f.item f.link with
  | none => rfl
  | some bl =>
    obtain ⟨b, l'⟩ := bl
    dsimp only
    cases hlap : lab.lapsedAt now f with
    | true => simp
    | false =>
      simp only [Bool.false_eq_true, if_false, withAssembly, and_true]
      rw [wrench_addExternalForce_link _ (hr b l' ht)]
      by_cases hl : l' = l
      · subst hl
        simp only [if_true, Option.map_some, Option.getD_some]
        rfl
      · simp [hl]

theorem wrench_applyString (s : StringCommand) (l : LinkId)
    (hr : ∀ b l', lab.target? s.item s.link = some (b, l') → l'.idx < lab.assembly.links.size) :
    ((lab.applyString s).assembly.link l).wrench =
      ((lab.stringOn l s).map ((lab.assembly.link l).wrench + ·)).getD (lab.assembly.link l).wrench := by
  rw [applyString_eq]
  unfold stringOn
  cases ht : lab.target? s.item s.link with
  | none => rfl
  | some bl =>
    obtain ⟨b, l'⟩ := bl
    dsimp only [withAssembly]
    rw [wrench_addExternalForce_link _ (hr b l' ht)]
    by_cases hl : l' = l
    · subst hl
      simp only [if_true, Option.map_some, Option.getD_some]
      rfl
    · simp [hl]


theorem run_modifyRun_of_isSome (h : lab.sim.run.isSome) (g : Run → Run) : (lab.modifyRun g).run = g lab.run := by
  cases hr : lab.sim.run with
  | none => simp [hr] at h
  | some r => simp [run, modifyRun, modifySim, hr]

theorem lookup_applyForce (now : Float) (f : ForceCommand) (s : Nat) :
    (lab.applyForce now f).run.forceStart.lookup s =
      (lab.run.forceStart.lookup s).or
        (if f.seq = s ∧ f.duration > 0.0 ∧ (lab.target? f.item f.link).isSome then some now else none) := by
  rw [applyForce_eq]
  cases ht : lab.target? f.item f.link with
  | none => simp
  | some bl =>
    obtain ⟨b, l'⟩ := bl
    have hclock : (lab.forceLapsed now f).1.run.forceStart.lookup s =
        (lab.run.forceStart.lookup s).or (if f.seq = s ∧ f.duration > 0.0 then some now else none) := by
      rw [forceLapsed_eq]
      by_cases hd : f.duration > 0.0
      · cases hl : lab.run.forceStart.lookup f.seq with
        | none =>
          simp only [hd, and_self, if_true, run_modifyRun_of_isSome _ (isSome_run_of_target? ht)]
          by_cases hs : f.seq = s
          · subst hs
            simp [hl]
          · have hs' : (s == f.seq) = false := by simpa using Ne.symm hs
            simp [List.lookup_cons, hs, hs']
        | some t =>
          by_cases hs : f.seq = s
          · subst hs
            simp [hl]
          · simp [hs]
      · simp [hd]
    dsimp only
    split <;> simpa using hclock

@[simp] theorem size_links_applyForce (now : Float) (f : ForceCommand) :
    (lab.applyForce now f).assembly.links.size = lab.assembly.links.size := by
  rw [applyForce_eq]
  split
  · rfl
  · split <;> simp [withAssembly]

@[simp] theorem size_links_applyString (s : StringCommand) :
    (lab.applyString s).assembly.links.size = lab.assembly.links.size := by
  rw [applyString_eq]
  split <;> simp [withAssembly]

theorem getD_or_start (o : Option Float) (c : Prop) [Decidable c] (now : Float) :
    (o.or (if c then some now else none)).getD now = o.getD now := by
  cases o <;> split <;> rfl

theorem wrenchOn_of_pose {lk lk' : Link} (h : lk.pose = lk'.pose) (f : ForceCommand) :
    f.wrenchOn lk = f.wrenchOn lk' := by
  simp only [ForceCommand.wrenchOn, Link.worldPoint, Link.position, h]

theorem stringWrenchOn_of_pose {lk lk' : Link} (h : lk.pose = lk'.pose) (s : StringCommand) (m : Float) :
    s.wrenchOn m lk = s.wrenchOn m lk' := by
  simp only [StringCommand.wrenchOn, Link.worldPoint, Link.position, h]

theorem forceOn_of_aim {now : Float} (ha : x.aim = y.aim)
    (hc : ∀ s, (x.run.forceStart.lookup s).getD now = (y.run.forceStart.lookup s).getD now) (l : LinkId)
    (f : ForceCommand) : x.forceOn now l f = y.forceOn now l f := by
  simp only [forceOn, target?_of_aim ha, lapsedAt_of_clocks hc, wrenchOn_of_pose (pose_of_aim ha l)]

theorem stringOn_of_aim (ha : x.aim = y.aim) (l : LinkId) (s : StringCommand) : x.stringOn l s = y.stringOn l s := by
  simp only [stringOn, target?_of_aim ha, totalMass_of_aim ha, stringWrenchOn_of_pose (pose_of_aim ha l)]

/-! ## Clearing -/

theorem wrench_clearForces (l : LinkId) :
    (lab.clearForces.assembly.link l).wrench =
      if (∃ k ∈ lab.run.active, l ∈ (lab.assembly.body (lab.run.bodies.getD k default).body).links) ∧
        l.idx < lab.assembly.links.size then Wrench.zero else (lab.assembly.link l).wrench := by
  unfold clearForces
  rw [← Array.foldl_toList]
  -- each cleared body zeroes its own links; the run and the bodies stay
  have hbodies : ∀ (ks : List Nat) (x : Lab τ σ), x.run = lab.run → x.assembly.bodies = lab.assembly.bodies →
      x.assembly.links.size = lab.assembly.links.size →
      ((ks.foldl (fun lab k => lab.withAssembly
          (lab.assembly.clearExternalForces (lab.run.bodies.getD k default).body)) x).assembly.link l).wrench =
        if (∃ k ∈ ks, l ∈ (lab.assembly.body (lab.run.bodies.getD k default).body).links) ∧
          l.idx < lab.assembly.links.size then Wrench.zero else (x.assembly.link l).wrench := by
    intro ks
    induction ks with
    | nil => intro x _ _ _; simp
    | cons k ks ih =>
      intro x hr hb hs
      obtain ⟨hb', hs', -⟩ := x.assembly.clearExternalForces_keeps (x.run.bodies.getD k default).body
      rw [List.foldl_cons, ih (x.withAssembly (x.assembly.clearExternalForces (x.run.bodies.getD k default).body))
        hr (hb'.trans hb) (hs'.trans hs)]
      simp only [withAssembly, Assembly.wrench_clearExternalForces, hr, hs]
      have hbody : x.assembly.body (lab.run.bodies.getD k default).body =
          lab.assembly.body (lab.run.bodies.getD k default).body := by
        simp only [Assembly.body, hb]
      rw [hbody]
      simp only [List.exists_mem_cons_iff]
      -- cleared by this body, by a later one, or by none
      by_cases hk : l ∈ (lab.assembly.body (lab.run.bodies.getD k default).body).links <;>
        by_cases hm : ∃ k ∈ ks, l ∈ (lab.assembly.body (lab.run.bodies.getD k default).body).links <;>
        by_cases hR : l.idx < lab.assembly.links.size <;>
        simp only [hk, hm, hR, and_self, and_true, and_false, true_or, or_true, false_or, if_true, if_false]
  rw [hbodies _ lab rfl rfl rfl]
  simp only [Array.mem_toList_iff]

theorem clearForces_keeps : lab.clearForces.run = lab.run ∧ lab.clearForces.aim = lab.aim ∧
    lab.clearForces.assembly.links.size = lab.assembly.links.size := by
  -- each cleared body keeps the run, the build, the poses and the size
  have hstep : ∀ (x : Lab τ σ) (k : Nat),
      (fun y : Lab τ σ => (y.run, y.aim, y.assembly.links.size))
        (x.withAssembly (x.assembly.clearExternalForces (x.run.bodies.getD k default).body)) =
      (x.run, x.aim, x.assembly.links.size) := by
    intro x k
    obtain ⟨hb, hs, hl⟩ := x.assembly.clearExternalForces_keeps (x.run.bodies.getD k default).body
    simp only [aim, run_withAssembly, assembly_withAssembly, Prod.mk.injEq, hb, hs, true_and, and_true]
    exact ⟨funext fun l => (hl l).1, funext fun l => (hl l).2⟩
  have h := foldl_keeps (fun y : Lab τ σ => (y.run, y.aim, y.assembly.links.size))
    (fun lab k => lab.withAssembly (lab.assembly.clearExternalForces (lab.run.bodies.getD k default).body))
    hstep lab.run.active.toList lab
  simp only [Prod.mk.injEq] at h
  unfold clearForces
  rw [← Array.foldl_toList]
  exact h

/-! ## The whole table -/

theorem foldl_applyForce_keeps (now : Float) :
    ∀ (fs : List ForceCommand) (x : Lab τ σ), x.aim = lab.aim → x.assembly.links.size = lab.assembly.links.size →
      (∀ s, (x.run.forceStart.lookup s).getD now = (lab.run.forceStart.lookup s).getD now) →
      let y := fs.foldl (applyForce now) x
      y.aim = lab.aim ∧ y.assembly.links.size = lab.assembly.links.size ∧
        ∀ s, (y.run.forceStart.lookup s).getD now = (lab.run.forceStart.lookup s).getD now
  | [], _, ha, hs, hc => ⟨ha, hs, hc⟩
  | f :: fs, x, ha, hs, hc => by
    refine foldl_applyForce_keeps now fs _ ((aim_applyForce now f).trans ha) (by simpa using hs) (fun s => ?_)
    rw [lookup_applyForce, getD_or_start]
    exact hc s

/-- Reading link `l` through the table: its wrench after the table is its
wrench before plus, in table order, what each force aimed at it that has not
lapsed adds, then what each string aimed at it adds. -/
theorem wrench_applyPerturbations (p : Perturbations) (l : LinkId)
    (hr : ∀ item link b l', lab.target? item link = some (b, l') → l'.idx < lab.assembly.links.size) :
    ((lab.applyPerturbations p).assembly.link l).wrench =
      (p.strings.toList.filterMap (lab.stringOn l)).foldl (· + ·)
        ((p.forces.toList.filterMap (lab.forceOn lab.run.time l)).foldl (· + ·) (lab.assembly.link l).wrench) := by
  unfold applyPerturbations
  dsimp only
  rw [← Array.foldl_toList, ← Array.foldl_toList]
  -- the forces, from `lab`, each read as from `lab`
  have hforces := foldl_read
    (fun x : Lab τ σ => x.aim = lab.aim ∧ x.assembly.links.size = lab.assembly.links.size ∧
      ∀ s, (x.run.forceStart.lookup s).getD lab.run.time = (lab.run.forceStart.lookup s).getD lab.run.time)
    (fun x => (x.assembly.link l).wrench) (applyForce lab.run.time)
    (fun c f => ((lab.forceOn lab.run.time l f).map (c + ·)).getD c)
    (fun x f ⟨ha, hs, hc⟩ => foldl_applyForce_keeps lab lab.run.time [f] x ha hs hc)
    (fun x f ⟨ha, hs, hc⟩ => by
      rw [wrench_applyForce x lab.run.time f l (fun b l' ht => hs ▸ hr _ _ b l' (target?_of_aim ha _ _ ▸ ht)),
        forceOn_of_aim ha hc])
    p.forces.toList lab ⟨rfl, rfl, fun _ => rfl⟩
  obtain ⟨ha₁, hs₁, -⟩ := foldl_applyForce_keeps lab lab.run.time p.forces.toList lab rfl rfl (fun _ => rfl)
  -- then the strings, from where the forces left it
  have hstrings := foldl_read
    (fun x : Lab τ σ => x.aim = lab.aim ∧ x.assembly.links.size = lab.assembly.links.size)
    (fun x => (x.assembly.link l).wrench) applyString
    (fun c s => ((lab.stringOn l s).map (c + ·)).getD c)
    (fun x s ⟨ha, hs⟩ => ⟨(aim_applyString s).trans ha, by simpa using hs⟩)
    (fun x s ⟨ha, hs⟩ => by
      rw [wrench_applyString x s l (fun b l' ht => hs ▸ hr _ _ b l' (target?_of_aim ha _ _ ▸ ht)),
        stringOn_of_aim ha])
    p.strings.toList _ ⟨ha₁, hs₁⟩
  rw [hstrings, hforces, foldl_addSome, foldl_addSome]

theorem lookup_foldl_applyForce (now : Float) (s : Nat) :
    ∀ (fs : List ForceCommand) (x : Lab τ σ), x.aim = lab.aim →
      (fs.foldl (applyForce now) x).run.forceStart.lookup s =
        (x.run.forceStart.lookup s).or
          (if ∃ f ∈ fs, f.seq = s ∧ f.duration > 0.0 ∧ (lab.target? f.item f.link).isSome then some now else none)
  | [], x, _ => by simp
  | f :: fs, x, ha => by
    rw [List.foldl_cons, lookup_foldl_applyForce now s fs _ ((aim_applyForce now f).trans ha), lookup_applyForce,
      target?_of_aim ha, Option.or_assoc]
    congr 1
    -- a clock starts for the first force or for one of the rest
    by_cases h₁ : f.seq = s ∧ f.duration > 0.0 ∧ (lab.target? f.item f.link).isSome
    · simp only [h₁, and_self, if_true, Option.some_or, List.mem_cons]
      rw [if_pos ⟨f, List.mem_cons_self .., h₁⟩]
    · simp only [h₁, if_false, Option.none_or, List.exists_mem_cons_iff, false_or]

theorem lookup_forceStart_applyPerturbations (p : Perturbations) (s : Nat) :
    (lab.applyPerturbations p).run.forceStart.lookup s =
      (lab.run.forceStart.lookup s).or
        (if ∃ f ∈ p.forces.toList, f.seq = s ∧ f.duration > 0.0 ∧ (lab.target? f.item f.link).isSome
         then some lab.run.time else none) := by
  unfold applyPerturbations
  dsimp only
  rw [← Array.foldl_toList, ← Array.foldl_toList]
  -- the strings keep the run
  have hstrings : ∀ (ss : List StringCommand) (x : Lab τ σ), (ss.foldl applyString x).run = x.run :=
    foldl_keeps run applyString fun x st => by
      rw [applyString_eq]
      split <;> rfl
  rw [hstrings, lookup_foldl_applyForce lab lab.run.time s _ lab rfl]

end Lab

end Sim

end Multibody
