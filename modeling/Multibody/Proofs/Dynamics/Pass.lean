import Multibody.Proofs.Body.Kinematics

/-!
# What the engine's pass re-poses

`Dynamics.JointSpace.advance` goes through the active bodies, moving a free
root as one rigid body and integrating the actuated joints, each ending with
forward kinematics; other bodies stay where they are.  `JointSpace.pass` is
the loop as a recursion (`advance_eq_pass`).  A re-posed body stays
kinematic while no later body holds its mount (`pass_kinematic`), and the
others keep their poses (`pose_advance_of_not_reposed`).
`Sim.forward_kinematics_across_mounts` gathers this from setup on.
-/

namespace Multibody

namespace Assembly

variable {a x y : Assembly} {b c : BodyId} {t : LinkTree}

/-- The engine moves body `b` as one rigid body: its root is free, hangs
from no other body, and the body carries mass. -/
def MovesRigidly (a : Assembly) (b : BodyId) : Prop :=
  ∃ r, (a.body b).root = some r ∧
    ((a.link r).jointType == .free && !a.hasParentBody (a.link r)) = true ∧ ¬ a.totalMass b ≤ 0.0

/-- The engine re-poses body `b` in a step: the body has an actuated joint,
or it is moved as one rigid body. -/
def Reposes (a : Assembly) (b : BodyId) : Prop :=
  (a.body b).joints.size ≠ 0 ∨ a.MovesRigidly b

theorem totalMass_of_withoutMotion (hb : y.bodies = x.bodies)
    (hl : ∀ l, (y.link l).withoutMotion = (x.link l).withoutMotion) (b : BodyId) :
    y.totalMass b = x.totalMass b := by
  have hbody : y.body b = x.body b := by simp only [body, hb]
  have hm : ∀ l, (y.link l).mass = (x.link l).mass := fun l =>
    Link.view_eq_of_withoutMotion Link.mass (fun _ => rfl) (hl l)
  simp only [totalMass, hbody, hm]

theorem reposes_of_withoutMotion (hb : y.bodies = x.bodies)
    (hl : ∀ l, (y.link l).withoutMotion = (x.link l).withoutMotion) (b : BodyId) :
    y.Reposes b ↔ x.Reposes b := by
  have hbody : y.body b = x.body b := by simp only [body, hb]
  have hjt : ∀ l, (y.link l).jointType = (x.link l).jointType := fun l =>
    Link.view_eq_of_withoutMotion Link.jointType (fun _ => rfl) (hl l)
  simp only [Reposes, MovesRigidly, hbody, hjt, hasParentBody_of_withoutMotion hl,
    totalMass_of_withoutMotion hb hl]

/-! ## What one body's step moves -/

theorem movesOnly_modifyLink {j : LinkId} {f : Link → Link} (hj : j ∈ (x.body c).links)
    (hf : ∀ l, (f l).withoutMotion = l.withoutMotion) : MovesOnly c x (x.modifyLink j f) where
  bodies := rfl
  built l := link_modifyLink_keeps x Link.withoutMotion hf j l
  frame _ hl := link_modifyLink_of_ne x f (fun e => hl (e ▸ hj))

theorem MovesOnly.foldl {α : Type} (f : Assembly → α → Assembly) :
    ∀ (es : List α) (y : Assembly), MovesOnly c x y →
      (∀ z e, e ∈ es → z.bodies = x.bodies → MovesOnly c z (f z e)) → MovesOnly c x (es.foldl f y)
  | [], _, h, _ => h
  | e :: es, y, h, hf =>
    MovesOnly.foldl f es _ (h.trans (hf y e (List.mem_cons_self ..) h.bodies))
      (fun z e' he' => hf z e' (List.mem_cons_of_mem _ he'))

theorem stepFreeRoot_cases {g : Vec3} {dt : Float} {a' : Assembly} {ok : Bool}
    (h : a.stepFreeRoot b g dt = .ok (a', ok)) :
    (a.totalMass b ≤ 0.0 ∧ a' = a ∧ ok = true) ∨
      (¬ a.totalMass b ≤ 0.0 ∧ ∃ r, (a.body b).root = some r ∧
        ∃ f : Link → Link, (∀ l, (f l).withoutMotion = l.withoutMotion) ∧
          a' = (a.modifyLink r f).forwardKinematics b) := by
  unfold stepFreeRoot at h
  cases hr : a.rootOf b with
  | error e => simp [hr, bind, Except.bind] at h
  | ok r =>
    by_cases hm : a.totalMass b ≤ 0.0
    · simp only [hr, hm, bind, Except.bind, if_true, pure, Except.pure, Except.ok.injEq,
        Prod.mk.injEq] at h
      exact .inl ⟨hm, h.1.symm, h.2.symm⟩
    · cases hc : a.centerOfMass b with
      | error e => simp [hr, hm, hc, bind, Except.bind] at h
      | ok com =>
        simp only [hr, hm, hc, bind, Except.bind, if_false, pure, Except.pure, Except.ok.injEq,
          Prod.mk.injEq] at h
        refine .inr ⟨hm, r, root_of_rootOf hr, _, ?_, h.1.symm⟩
        intro l
        rfl

theorem setJointPositions_movesOnly {js : Array LinkId} (hj : ∀ l ∈ js, l ∈ (x.body b).links)
    (h : MovesOnly b x y) (q : Array Float) :
    ∃ z, MovesOnly b x z ∧ y.setJointPositions b js q = z.forwardKinematics b := by
  refine ⟨_, ?_, rfl⟩
  rw [← Array.foldl_toList]
  refine MovesOnly.foldl _ _ _ h (fun z e he hz => ?_)
  obtain ⟨l, v⟩ := e
  rw [Array.toList_zip] at he
  have hbody : z.body b = x.body b := by simp only [body, hz]
  refine movesOnly_modifyLink ?_ (fun _ => rfl)
  rw [hbody]
  exact hj l (Array.mem_toList_iff.1 (List.of_mem_zip he).1)

theorem stepJoints_cases {integ : Integrator} {g : Vec3} {tm dt : Float} {a' : Assembly}
    (hj : ∀ l ∈ (a.body b).joints, l ∈ (a.body b).links)
    (h : a.stepJoints b integ g tm dt = .ok (some a')) :
    ((a.body b).joints.size = 0 ∧ a' = a) ∨
      ((a.body b).joints.size ≠ 0 ∧ ∃ x, MovesOnly b a x ∧ a' = x.forwardKinematics b) := by
  unfold stepJoints at h
  by_cases hn : (a.body b).joints.size = 0
  · simp only [hn, if_true, pure, Except.pure, Except.ok.injEq, Option.some.injEq] at h
    exact .inl ⟨hn, h.symm⟩
  · refine .inr ⟨hn, ?_⟩
    simp only [hn, if_false, bind, Except.bind] at h
    split at h
    · cases h
    · split at h
      · cases h
      · simp only [pure, Except.pure, Except.ok.injEq, Option.some.injEq] at h
        subst h
        -- the new joint states are set one joint at a time, then the positions again
        refine setJointPositions_movesOnly hj ?_ _
        refine MovesOnly.foldl _ _ _ (MovesOnly.refl b a) (fun z i hi hz => ?_)
        have hi' : i < (a.body b).joints.size := List.mem_range.1 hi
        have hbody : z.body b = a.body b := by simp only [body, hz]
        refine movesOnly_modifyLink ?_ (fun _ => rfl)
        rw [hbody, getElem!_pos (a.body b).joints i hi']
        exact hj _ (Array.getElem_mem hi')

theorem applyContacts_keeps (a : Assembly) (pairs : Array LinkPair) (k : Float) :
    (a.applyContacts pairs k).bodies = a.bodies ∧
      ∀ l, ((a.applyContacts pairs k).link l).withoutMotion = (a.link l).withoutMotion ∧
        ((a.applyContacts pairs k).link l).pose = (a.link l).pose := by
  let view (x : Assembly) := (x.bodies, fun l => ((x.link l).withoutMotion, (x.link l).pose))
  have hmod : ∀ (x : Assembly) (l : LinkId) (p f : Vec3),
      view (x.modifyLink l (·.addExternalForce p f)) = view x := fun x l p f =>
    Prod.ext rfl (funext fun m => Prod.ext
      (@link_modifyLink_keeps x _ Link.withoutMotion (·.addExternalForce p f) (fun _ => rfl) l m)
      (@link_modifyLink_keeps x _ Link.pose (·.addExternalForce p f) (fun _ => rfl) l m))
  have h : view (a.applyContacts pairs k) = view a := by
    unfold applyContacts
    rw [← Array.foldl_toList]
    refine Sim.foldl_keeps view _ (fun x pr => ?_) _ _
    rw [← Array.foldl_toList]
    refine Sim.foldl_keeps view _ (fun y ct => ?_) _ _
    dsimp only
    split
    · rfl
    · split <;> split <;> simp only [hmod]
  exact ⟨congrArg Prod.fst h, fun l => Prod.ext_iff.1 (congrFun (congrArg Prod.snd h) l)⟩

end Assembly

namespace Dynamics.JointSpace

/-- The first part of a body's step: a free root that hangs from no other
body moves the body as one rigid body. -/
def stepRoot (j : JointSpace) (a : Assembly) (b : BodyId) (r : LinkId) : Except Fault (Assembly × Bool) :=
  let root := a.link r
  if root.jointType == .free && !a.hasParentBody root then a.stepFreeRoot b j.gravity j.dt
  else pure (a, true)

/-- The second part: the actuated joints; `false` when their new state is
not finite. -/
def stepActuated (j : JointSpace) (t : Float) (a : Assembly) (b : BodyId) : Except Fault (Assembly × Bool) := do
  match ← a.stepJoints b j.integrator j.gravity t j.dt with
  | some a' => return (a', true)
  | none => return (a, false)

/-- The engine's step of one active body within a pass; `false` when the
body's state stops being finite. -/
def stepBody (j : JointSpace) (t : Float) (a : Assembly) (b : BodyId) : Except Fault (Assembly × Bool) := do
  let r ← a.rootOf b
  let (a, ok) ← j.stepRoot a b r
  if !ok then return (a, false)
  j.stepActuated t a b

/-- The engine's pass over the active bodies in order, stopping at the first
body whose state stops being finite. -/
def pass (j : JointSpace) (t : Float) : List BodyId → Assembly → Except Fault (Assembly × Bool)
  | [], a => pure (a, true)
  | b :: bs, a => do
    let (a, ok) ← j.stepBody t a b
    if ok then j.pass t bs a else pure (a, false)

/-- The assembly a pass starts from: the contact forces added, when the
engine uses contacts. -/
def withContacts (j : JointSpace) (a : Assembly) : Assembly :=
  if j.contacts then a.applyContacts j.pairs j.stiffness else a

theorem advance_eq_pass (j : JointSpace) (a : Assembly) (active : Array BodyId) (t : Float) :
    j.advance a active t =
      (j.pass t active.toList (j.withContacts a)).map
        fun r => (r.1, if r.2 then { j with steps := j.steps + 1 } else j, r.2) := by
  unfold advance withContacts
  dsimp only
  rw [← Array.forIn_toList]
  generalize (if j.contacts = true then a.applyContacts j.pairs j.stiffness else a) = a₀
  induction active.toList generalizing a₀ with
  | nil => rfl
  | cons b bs ih =>
    rw [List.forIn_cons]
    simp only [pass, stepBody, stepRoot, stepActuated]
    cases hr : a₀.rootOf b with
    | error e => rfl
    | ok r =>
      simp only [bind, Except.bind, pure, Except.pure, Except.map] at ih ⊢
      by_cases hc : ((a₀.link r).jointType == JointType.free && !a₀.hasParentBody (a₀.link r)) = true
      · -- a free root that hangs from no other body moves first
        simp only [hc, if_true]
        cases hf : a₀.stepFreeRoot b j.gravity j.dt with
        | error e => rfl
        | ok v =>
          obtain ⟨a₁, ok⟩ := v
          cases ok
          · rfl
          · simp only [Bool.not_true, Bool.false_eq_true, if_false]
            cases hj : a₁.stepJoints b j.integrator j.gravity t j.dt with
            | error e => rfl
            | ok v =>
              cases v with
              | none => rfl
              | some a₂ => exact ih a₂
      · simp only [hc, Bool.false_eq_true, if_false, Bool.not_true]
        cases hj : a₀.stepJoints b j.integrator j.gravity t j.dt with
        | error e => rfl
        | ok v =>
          cases v with
          | none => rfl
          | some a₂ => exact ih a₂

/-! ## One body's step -/

open Assembly

variable {j : JointSpace} {tm : Float} {x x' y : Assembly} {b : BodyId} {t : LinkTree}

theorem stepRoot_cases {r : LinkId} {ok : Bool} (hidx : x.Indexed b t) (hr : (x.body b).root = some r)
    (h : j.stepRoot x b r = .ok (x', ok)) :
    (x' = x ∧ ok = true ∧ ¬ x.MovesRigidly b) ∨
      (x.MovesRigidly b ∧ ∃ z, MovesOnly b x z ∧ x' = z.forwardKinematics b) := by
  unfold stepRoot at h
  dsimp only at h
  split at h
  · rename_i hc
    rcases stepFreeRoot_cases h with ⟨hm, rfl, rfl⟩ | ⟨hm, r', hr', f, hf, rfl⟩
    · exact .inl ⟨rfl, rfl, fun ⟨_, _, _, hm'⟩ => hm' hm⟩
    · exact .inr ⟨⟨r, hr, hc, hm⟩, _, movesOnly_modifyLink (hidx.root_mem hr') hf, rfl⟩
  · rename_i hc
    simp only [pure, Except.pure, Except.ok.injEq, Prod.mk.injEq] at h
    refine .inl ⟨h.1.symm, h.2.symm, ?_⟩
    rintro ⟨r', hr', hc', -⟩
    rw [hr] at hr'
    cases hr'
    exact hc hc'

theorem stepActuated_cases {ok : Bool} (hj : ∀ l ∈ (x.body b).joints, l ∈ (x.body b).links)
    (h : j.stepActuated tm x b = .ok (x', ok)) :
    (x' = x ∧ (ok = true → (x.body b).joints.size = 0)) ∨
      ((x.body b).joints.size ≠ 0 ∧ ∃ z, MovesOnly b x z ∧ x' = z.forwardKinematics b) := by
  unfold stepActuated at h
  simp only [bind, Except.bind] at h
  split at h
  · cases h
  · rename_i v hv
    cases v with
    | none =>
      simp only [pure, Except.pure, Except.ok.injEq, Prod.mk.injEq] at h
      exact .inl ⟨h.1.symm, fun hok => absurd (h.2.trans hok) Bool.false_ne_true⟩
    | some x₁ =>
      simp only [pure, Except.pure, Except.ok.injEq, Prod.mk.injEq] at h
      obtain ⟨rfl, rfl⟩ := h
      rcases stepJoints_cases hj hv with ⟨hn, rfl⟩ | hre
      · exact .inl ⟨rfl, fun _ => hn⟩
      · exact .inr hre

/-- What the step of one body does: it leaves the body as it is (always
when the engine does not re-pose it), or the engine re-poses it, moving only
its links and ending with its forward kinematics. -/
theorem stepBody_cases {ok : Bool} (hidx : x.Indexed b t) (h : j.stepBody tm x b = .ok (x', ok)) :
    (x' = x ∧ (ok = true → ¬ x.Reposes b)) ∨
      (x.Reposes b ∧ ∃ z, MovesOnly b x z ∧ x' = z.forwardKinematics b) := by
  unfold stepBody at h
  cases hr : x.rootOf b with
  | error e => simp [hr, bind, Except.bind] at h
  | ok r =>
    simp only [hr, bind, Except.bind] at h
    cases hs : j.stepRoot x b r with
    | error e => simp [hs] at h
    | ok v =>
      obtain ⟨x₁, ok₁⟩ := v
      simp only [hs] at h
      rcases stepRoot_cases hidx (root_of_rootOf hr) hs with ⟨rfl, rfl, hnm⟩ | ⟨hm, z₁, hz₁, rfl⟩
      · -- not moved as one rigid body: only the joints can re-pose it
        simp only [Bool.not_true, Bool.false_eq_true, if_false] at h
        rcases stepActuated_cases (fun _ => hidx.joint_mem) h with ⟨rfl, hn⟩ | ⟨hn, z, hz, rfl⟩
        · exact .inl ⟨rfl, fun hok hre => hre.elim (fun hne => hne (hn hok)) hnm⟩
        · exact .inr ⟨.inl hn, z, hz, rfl⟩
      · -- moved as one rigid body, then possibly at its joints
        have hbody : (z₁.forwardKinematics b).body b = x.body b := by
          simp only [body, bodies_forwardKinematics, hz₁.bodies]
        cases ok₁
        · simp only [Bool.not_false, if_true, pure, Except.pure, Except.ok.injEq, Prod.mk.injEq] at h
          exact .inr ⟨.inr hm, z₁, hz₁, h.1.symm⟩
        · simp only [Bool.not_true, Bool.false_eq_true, if_false] at h
          rcases stepActuated_cases (fun _ hl => by rw [hbody] at hl ⊢; exact hidx.joint_mem hl) h with
            ⟨rfl, -⟩ | ⟨-, z, hz, rfl⟩
          · exact .inr ⟨.inr hm, z₁, hz₁, rfl⟩
          · exact .inr ⟨.inr hm, z, (hz₁.trans (movesOnly_forwardKinematics z₁ b)).trans hz, rfl⟩

section Step

variable {ok : Bool} (hidx : x.Indexed b t) (h : j.stepBody tm x b = .ok (x', ok))
include hidx h

theorem movesOnly_stepBody : MovesOnly b x x' := by
  rcases stepBody_cases hidx h with ⟨hx, -⟩ | ⟨-, z, hz, hx⟩
  · rw [hx]
    exact MovesOnly.refl b x
  · rw [hx]
    exact hz.trans (movesOnly_forwardKinematics z b)

theorem stepBody_of_not_reposes (hn : ¬ x.Reposes b) : x' = x := by
  rcases stepBody_cases hidx h with ⟨hx, -⟩ | ⟨hre, -⟩
  · exact hx
  · exact absurd hre hn

theorem stepBody_kinematic (hok : ok = true) (hre : x.Reposes b) : x'.Kinematic b := by
  rcases stepBody_cases hidx h with ⟨-, hn⟩ | ⟨-, z, hz, hx⟩
  · exact absurd hre (hn hok)
  · rw [hx]
    exact forwardKinematics_kinematic (hidx.congr hz.bodies hz.built)

end Step

/-! ## A pass over the active bodies -/

theorem pass_append (bs cs : List BodyId) (x : Assembly) :
    j.pass tm (bs ++ cs) x =
      (do let (y, ok) ← j.pass tm bs x; if ok then j.pass tm cs y else pure (y, false)) := by
  induction bs generalizing x with
  | nil => rfl
  | cons b bs ih =>
    simp only [List.cons_append, pass, bind, Except.bind]
    cases j.stepBody tm x b with
    | error e => rfl
    | ok v =>
      obtain ⟨y, ok⟩ := v
      cases ok
      · rfl
      · exact ih y

theorem pass_cons_cases {c : BodyId} {bs : List BodyId} {x : Assembly} {ok : Bool}
    (h : j.pass tm (c :: bs) x = .ok (x', ok)) :
    (j.stepBody tm x c = .ok (x', false) ∧ ok = false) ∨
      ∃ y, j.stepBody tm x c = .ok (y, true) ∧ j.pass tm bs y = .ok (x', ok) := by
  simp only [pass, bind, Except.bind] at h
  cases hs : j.stepBody tm x c with
  | error e => simp [hs] at h
  | ok v =>
    obtain ⟨y, okc⟩ := v
    simp only [hs] at h
    cases okc
    · simp only [Bool.false_eq_true, if_false, pure, Except.pure, Except.ok.injEq, Prod.mk.injEq] at h
      obtain ⟨rfl, rfl⟩ := h
      exact .inl ⟨rfl, rfl⟩
    · exact .inr ⟨y, rfl, h⟩

theorem pass_append_of_true {bs cs : List BodyId} {x : Assembly} (h : j.pass tm (bs ++ cs) x = .ok (x', true)) :
    ∃ y, j.pass tm bs x = .ok (y, true) ∧ j.pass tm cs y = .ok (x', true) := by
  rw [pass_append] at h
  cases hp : j.pass tm bs x with
  | error e => simp [hp, bind, Except.bind] at h
  | ok v =>
    obtain ⟨y, oky⟩ := v
    cases oky
    · simp [hp, bind, Except.bind, pure, Except.pure] at h
    · simp only [hp, bind, Except.bind, if_true] at h
      exact ⟨y, rfl, h⟩

theorem pass_keeps {ok : Bool} : ∀ (bs : List BodyId) (x : Assembly), (∀ c ∈ bs, ∃ t, x.Indexed c t) →
    j.pass tm bs x = .ok (x', ok) →
    x'.bodies = x.bodies ∧ (∀ l, (x'.link l).withoutMotion = (x.link l).withoutMotion) ∧
      ∀ l, (∀ c ∈ bs, x.Reposes c → l ∉ (x.body c).links) → x'.link l = x.link l
  | [], x, _, h => by
    simp only [pass, pure, Except.pure, Except.ok.injEq, Prod.mk.injEq] at h
    rw [← h.1]
    exact ⟨rfl, fun _ => rfl, fun _ _ => rfl⟩
  | c :: bs, x, hidx, h => by
    obtain ⟨tc, hc⟩ := hidx c (List.mem_cons_self ..)
    -- the step keeps every link outside the body, and all of a body it does not re-pose
    have hstep : ∀ {y okc}, j.stepBody tm x c = .ok (y, okc) →
        MovesOnly c x y ∧ ∀ l, (x.Reposes c → l ∉ (x.body c).links) → y.link l = x.link l := by
      intro y okc hs
      refine ⟨movesOnly_stepBody hc hs, fun l hl => ?_⟩
      by_cases hre : x.Reposes c
      · exact (movesOnly_stepBody hc hs).frame l (hl hre)
      · rw [stepBody_of_not_reposes hc hs hre]
    rcases pass_cons_cases h with ⟨hs, -⟩ | ⟨y, hs, h'⟩
    · obtain ⟨hm, hframe⟩ := hstep hs
      exact ⟨hm.bodies, hm.built, fun l hl => hframe l (hl c (List.mem_cons_self ..))⟩
    · obtain ⟨hm, hframe⟩ := hstep hs
      have hbody : ∀ d, y.body d = x.body d := fun d => by simp only [body, hm.bodies]
      obtain ⟨hb', hl', hframe'⟩ := pass_keeps bs y (fun d hd => by
        obtain ⟨td, hd'⟩ := hidx d (List.mem_cons_of_mem _ hd)
        exact ⟨td, hd'.congr hm.bodies hm.built⟩) h'
      refine ⟨hb'.trans hm.bodies, fun l => (hl' l).trans (hm.built l), fun l hl => ?_⟩
      rw [hframe' l (fun d hd hre => by
          rw [hbody]
          exact hl d (List.mem_cons_of_mem _ hd) ((reposes_of_withoutMotion hm.bodies hm.built d).1 hre)),
        hframe l (hl c (List.mem_cons_self ..))]

theorem pass_kinematic {pre post : List BodyId} (hnd : (pre ++ b :: post).Nodup)
    (hidx : ∀ c ∈ pre ++ b :: post, ∃ t, x.Indexed c t) (hre : x.Reposes b)
    (hmount : ∀ p, x.parentBodyLink? b = some p → ∀ c ∈ post, x.Reposes c → p ∉ (x.body c).links)
    (h : j.pass tm (pre ++ b :: post) x = .ok (x', true)) : x'.Kinematic b := by
  obtain ⟨tb, hb⟩ := hidx b (List.mem_append_right _ (List.mem_cons_self ..))
  obtain ⟨y, hp, h⟩ := pass_append_of_true h
  -- the bodies before `b` keep the build, so `b` is re-posed from `y` as from `x`
  obtain ⟨hyb, hyl, -⟩ := pass_keeps pre x (fun c hc => hidx c (List.mem_append_left _ hc)) hp
  obtain ⟨z, hs, h⟩ : ∃ z, j.stepBody tm y b = .ok (z, true) ∧ j.pass tm post z = .ok (x', true) := by
    rcases pass_cons_cases h with ⟨-, hf⟩ | hgo
    · cases hf
    · exact hgo
  have hby := hb.congr hyb hyl
  have hm := movesOnly_stepBody hby hs
  have hkz := stepBody_kinematic hby hs rfl ((reposes_of_withoutMotion hyb hyl b).2 hre)
  -- the bodies after `b` keep its links and the link it is mounted on
  have hzb : z.bodies = x.bodies := hm.bodies.trans hyb
  have hzl : ∀ l, (z.link l).withoutMotion = (x.link l).withoutMotion := fun l => (hm.built l).trans (hyl l)
  have hpost : ∀ c ∈ post, c ≠ b ∧ ∃ t, z.Indexed c t := fun c hc => by
    have hnotin : b ∉ post := (List.nodup_cons.1 (List.nodup_append.1 hnd).2.1).1
    obtain ⟨tc, hc'⟩ := hidx c (List.mem_append_right _ (List.mem_cons_of_mem _ hc))
    exact ⟨fun e => hnotin (e ▸ hc), tc, hc'.congr hzb hzl⟩
  obtain ⟨hb', hl', hframe⟩ := pass_keeps post z (fun c hc => (hpost c hc).2) h
  refine hkz.of_frame (hb.congr hzb hzl) hb' hl' (fun l hl => hframe l (fun c hc hrc => ?_))
  obtain ⟨hcb, tc, hc'⟩ := hpost c hc
  rcases hl with hl | hl
  · exact (hb.congr hzb hzl).not_mem_of_ne hc' (Ne.symm hcb) hl
  · have hbody : z.body c = x.body c := by simp only [body, hzb]
    rw [parentBodyLink?_of_withoutMotion hzb hzl] at hl
    rw [hbody]
    exact hmount l hl c hc ((reposes_of_withoutMotion hzb hzl c).1 hrc)

/-! ## A step of the engine -/

theorem withContacts_keeps (j : JointSpace) (x : Assembly) :
    (j.withContacts x).bodies = x.bodies ∧
      ∀ l, ((j.withContacts x).link l).withoutMotion = (x.link l).withoutMotion ∧
        ((j.withContacts x).link l).pose = (x.link l).pose := by
  unfold withContacts
  split
  · exact applyContacts_keeps x j.pairs j.stiffness
  · exact ⟨rfl, fun _ => ⟨rfl, rfl⟩⟩

theorem pass_of_advance {active : Array BodyId} {j' : JointSpace} {ok : Bool}
    (h : j.advance x active tm = .ok (x', j', ok)) : j.pass tm active.toList (j.withContacts x) = .ok (x', ok) := by
  rw [advance_eq_pass] at h
  cases hp : j.pass tm active.toList (j.withContacts x) with
  | error e => simp [hp, Except.map] at h
  | ok v =>
    simp only [hp, Except.map, Except.ok.injEq, Prod.mk.injEq] at h
    obtain ⟨h₁, -, h₂⟩ := h
    rw [← h₁, ← h₂]

theorem advance_kinematic {active : Array BodyId} {pre post : List BodyId} {j' : JointSpace}
    (hact : active.toList = pre ++ b :: post) (hnd : active.toList.Nodup)
    (hidx : ∀ c ∈ active, ∃ t, x.Indexed c t) (hre : x.Reposes b)
    (hmount : ∀ p, x.parentBodyLink? b = some p → ∀ c ∈ post, x.Reposes c → p ∉ (x.body c).links)
    (h : j.advance x active tm = .ok (x', j', true)) : x'.Kinematic b := by
  obtain ⟨hb, hl⟩ := withContacts_keeps j x
  have hw : ∀ l, ((j.withContacts x).link l).withoutMotion = (x.link l).withoutMotion := fun l => (hl l).1
  have hbody : ∀ c, (j.withContacts x).body c = x.body c := fun c => by simp only [body, hb]
  have hp := pass_of_advance h
  rw [hact] at hp hnd
  refine pass_kinematic hnd (fun c hc => ?_) ((reposes_of_withoutMotion hb hw b).2 hre) (fun p hp c hc hrc => ?_) hp
  · obtain ⟨t, ht⟩ := hidx c (by rw [← Array.mem_toList_iff, hact]; exact hc)
    exact ⟨t, ht.congr hb hw⟩
  · rw [parentBodyLink?_of_withoutMotion hb hw] at hp
    rw [hbody]
    exact hmount p hp c hc ((reposes_of_withoutMotion hb hw c).1 hrc)

theorem pose_advance_of_not_reposed {active : Array BodyId} {j' : JointSpace} {ok : Bool} {l : LinkId}
    (hidx : ∀ c ∈ active, ∃ t, x.Indexed c t) (hl : ∀ c ∈ active, x.Reposes c → l ∉ (x.body c).links)
    (h : j.advance x active tm = .ok (x', j', ok)) : (x'.link l).pose = (x.link l).pose := by
  obtain ⟨hb, hkeep⟩ := withContacts_keeps j x
  have hw : ∀ l, ((j.withContacts x).link l).withoutMotion = (x.link l).withoutMotion := fun l => (hkeep l).1
  have hbody : ∀ c, (j.withContacts x).body c = x.body c := fun c => by simp only [body, hb]
  obtain ⟨-, -, hframe⟩ := pass_keeps active.toList (j.withContacts x)
    (fun c hc => by
      obtain ⟨t, ht⟩ := hidx c (Array.mem_toList_iff.1 hc)
      exact ⟨t, ht.congr hb hw⟩) (pass_of_advance h)
  rw [hframe l (fun c hc hrc => by
      rw [hbody]
      exact hl c (Array.mem_toList_iff.1 hc) ((reposes_of_withoutMotion hb hw c).1 hrc)),
    (hkeep l).2]

end Dynamics.JointSpace

namespace Assembly

theorem Indexed.of_single {a : Assembly} {b : BodyId} {r : LinkId} (hroot : (a.body b).root = some r)
    (hlinks : (a.body b).links = #[r]) (hjoints : (a.body b).joints = #[])
    (hchildren : (a.link r).children = #[]) (hindex : (a.link r).index = 0)
    (hown : (a.link r).body = some b) (hjt : (a.link r).jointType.isActuated = false)
    (hid : (a.link r).jointId = -1) : a.Indexed b (.node r []) where
  root := hroot
  spans := .node r [] (by simp [hchildren]) (by simp) (by simp)
  links := by simp [hlinks, LinkTree.preorder, LinkTree.preorderAll]
  nodup := by simp [hlinks]
  index i hi := by
    simp only [hlinks, List.size_toArray, List.length_singleton, Nat.lt_one_iff] at hi
    subst hi
    simp [hlinks, hindex]
  body l hl := by
    simp only [hlinks, List.mem_toArray, List.mem_singleton] at hl
    rw [hl, hown]
  parent i hi hpos := by
    simp only [hlinks, List.size_toArray, List.length_singleton] at hi
    omega
  joints := by simp [hjoints, LinkTree.preorder, LinkTree.preorderAll, hjt]
  jointId j hj := by simp [hjoints] at hj
  unactuated l hl _ := by
    simp only [hlinks, List.mem_toArray, List.mem_singleton] at hl
    rw [hl, hid]
  linkAt := linkAt?_eq_none_iff
  jointAt := jointAt?_eq_none_iff

end Assembly

namespace Sim

open Assembly Multibody.Dynamics

/-- A free ball of unit mass, and a massless tag mounted on it one unit
along `x`: two bodies of one link each, indexed. -/
def tagWorld : Assembly where
  links := #[{ name := "ball", body := some ⟨0⟩, index := 0, jointType := .free, mass := 1.0,
               inertia := ⟨0.1, 0.0, 0.0, 0.0, 0.1, 0.0, 0.0, 0.0, 0.1⟩ },
             { name := "tag", body := some ⟨1⟩, index := 0, jointType := .free, parent := some ⟨0⟩,
               offset := Mat4.translation 1.0 0.0 0.0 }]
  bodies := #[{ name := "ball", modelName := "ball", root := some ⟨0⟩, links := #[⟨0⟩] },
              { name := "tag", modelName := "tag", root := some ⟨1⟩, links := #[⟨1⟩] }]

/-- A free ball with the tag mounted on it, run for one step of the
joint-space engine. -/
def tagLab : Lab Unit Unit where
  assembly := tagWorld
  items := #[{ name := "ball", master := ⟨0⟩ }, { name := "tag", master := ⟨1⟩ }]
  controllers := #[]
  world := { name := "world", bodies := #[0, 1] }
  sim := { Simulator.create (some { engine := {} })
             { timeStep := 0.01, timeRange := .specified, timeLength := 0.01 } with hasWorld := true }
  session := ()

end Sim

end Multibody
