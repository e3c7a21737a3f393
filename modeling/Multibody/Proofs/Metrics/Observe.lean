import Multibody.Proofs.Dynamics.JointStep
import Multibody.Metrics.Basic
import Multibody.App.Session

/-!
# Metrics observe a body as forward kinematics leaves it

The mechanical energy moves every joint along its rate and back, so on an
indexed body it leaves the assembly as one pass of forward kinematics would
(`mechanicalEnergy_eq`), and a `Kinematic` body as it was
(`mechanicalEnergy_of_kinematic`).  Observing a metric set then changes
only its values (`metrics_only_observe_posed_bodies`); a stale body is
re-posed (`mechanicalEnergy_reposes_stale_slide`).
-/

namespace Multibody

/-- A link with its joint position and its pose set aside: what moving a
joint along its rate and re-posing the body keep. -/
def Link.withoutPosition (l : Link) : Link := { l with joint := { l.joint with q := 0.0 }, pose := Mat4.ident }

@[simp] theorem Link.withoutPosition_setPose (l : Link) (p : Mat4) :
    ({ l with pose := p } : Link).withoutPosition = l.withoutPosition := rfl

@[simp] theorem Link.withoutPosition_withPosition (x : Float) (l : Link) :
    (l.withPosition x).withoutPosition = l.withoutPosition := rfl

theorem Link.withoutPose_withPosition {l₁ l₂ : Link} (h : l₁.withoutPosition = l₂.withoutPosition) :
    (l₁.withPosition l₂.joint.q).withoutPose = l₂.withoutPose := by
  obtain ⟨j₁⟩ := l₁
  obtain ⟨j₂⟩ := l₂
  simp_all [Link.withoutPosition, Link.withPosition, Link.withoutPose]

namespace Assembly

variable {a : Assembly} {b : BodyId} {t : LinkTree}

theorem link_foldl_modifyLink_of_not_mem (f : Link → Link) {l : LinkId} :
    ∀ (js : List LinkId) (x : Assembly), l ∉ js → (js.foldl (fun x j => x.modifyLink j f) x).link l = x.link l
  | [], _, _ => rfl
  | j :: js, x, hl => by
    rw [List.foldl_cons, link_foldl_modifyLink_of_not_mem f js _ fun h => hl (List.mem_cons_of_mem _ h),
      link_modifyLink_of_ne _ _ fun e => hl (by rw [e]; exact List.mem_cons_self ..)]

theorem foldl_modifyLink_positions {f : Link → Link}
    (hf : ∀ l, (f l).withoutPosition = l.withoutPosition ∧ (f l).pose = l.pose) (js : Array LinkId) (a : Assembly) :
    (js.foldl (fun x j => x.modifyLink j f) a).bodies = a.bodies ∧
      (js.foldl (fun x j => x.modifyLink j f) a).links.size = a.links.size ∧
      (js.foldl (fun x j => x.modifyLink j f) a).nextIdentity = a.nextIdentity ∧
      ∀ l, ((js.foldl (fun x j => x.modifyLink j f) a).link l).withoutPosition = (a.link l).withoutPosition ∧
        ((js.foldl (fun x j => x.modifyLink j f) a).link l).pose = (a.link l).pose := by
  refine Array.foldl_induction (fun _ (x : Assembly) => x.bodies = a.bodies ∧ x.links.size = a.links.size ∧
    x.nextIdentity = a.nextIdentity ∧ ∀ l, (x.link l).withoutPosition = (a.link l).withoutPosition ∧
      (x.link l).pose = (a.link l).pose) ⟨rfl, rfl, rfl, fun _ => ⟨rfl, rfl⟩⟩ ?_
  rintro i x ⟨hb, hs, hid, hv⟩
  refine ⟨hb, by rw [size_modifyLink, hs], hid, fun l => ?_⟩
  rw [link_modifyLink_keeps x Link.withoutPosition (fun y => (hf y).1), link_modifyLink_keeps x Link.pose (fun y => (hf y).2)]
  exact hv l

section Indexed

variable (hx : a.Indexed b t)
include hx

theorem Kinematic.root_forwardKinematics (hk : a.Kinematic b) :
    ((a.forwardKinematics b).link t.root).pose = (a.link t.root).pose := by
  have hview : ∀ l, ((a.forwardKinematics b).link l).withoutPose = (a.link l).withoutPose :=
    forwardKinematics_keeps a Link.withoutPose (fun _ _ => rfl) b
  have hmem : t.root ∈ (a.body b).links := hx.root_mem hx.root
  cases hm : a.hasParentBody (a.link t.root)
  · exact forwardKinematics_root_pose a b hx.root hm
  · have hnr : ¬ a.UnmountedRoot b t.root := fun h => by rw [h.2] at hm; cases hm
    have hnr' : ¬ (a.forwardKinematics b).UnmountedRoot b t.root := by
      rwa [unmountedRoot_of_withoutMotion (bodies_forwardKinematics a b) (withoutMotion_forwardKinematics a b)]
    obtain ⟨p, hp, hpa⟩ := hk t.root hmem hnr
    obtain ⟨p', hp', hpy⟩ := forwardKinematics_kinematic hx t.root
      (by simp only [body, bodies_forwardKinematics]; exact hmem) hnr'
    rw [Link.view_eq_of_withoutPose Link.parent (fun _ => rfl) (hview _), hp] at hp'
    cases hp'
    -- the parent belongs to another body, which the pass does not move
    have hpout : p ∉ (a.body b).links := by
      intro hpin
      unfold hasParentBody at hm
      rw [hp] at hm
      simp [hx.body p hpin, hx.body t.root hmem] at hm
    rw [hpy, hpa, link_forwardKinematics_of_not_mem a b hpout, Link.view_eq_of_withoutPose Link.offset (fun _ => rfl)
      (hview t.root), Link.view_eq_of_withoutPose Link.jointTransform Link.jointTransform_withoutPose (hview t.root)]

theorem Kinematic.forwardKinematics_eq (hk : a.Kinematic b) : a.forwardKinematics b = a := by
  have hview : ∀ l, ((a.forwardKinematics b).link l).withoutPose = (a.link l).withoutPose :=
    forwardKinematics_keeps a Link.withoutPose (fun _ _ => rfl) b
  have hposes := Kinematic.pose_eq hk (forwardKinematics_kinematic hx) hx (bodies_forwardKinematics a b)
    (fun l => Link.view_eq_of_withoutPose _ Link.withoutMotion_withoutPose (hview l)) (hk.root_forwardKinematics hx)
    (fun l _ => Link.view_eq_of_withoutPose _ Link.jointTransform_withoutPose (hview l))
  have hlink : ∀ l, (a.forwardKinematics b).link l = a.link l := by
    intro l
    by_cases hl : l ∈ (a.body b).links
    · exact Link.eq_of_withoutPose (hview l) (hposes l hl)
    · exact link_forwardKinematics_of_not_mem a b hl
  exact ext_fields (links_eq_of_link (size_forwardKinematics a b) hlink) (bodies_forwardKinematics a b)
    (nextIdentity_forwardKinematics a b)

theorem forwardKinematics_restored {P : Assembly} (hb : P.bodies = a.bodies) (hs : P.links.size = a.links.size)
    (hid : P.nextIdentity = a.nextIdentity)
    (hv : ∀ l, (P.link l).withoutPosition = (a.link l).withoutPosition ∧ (P.link l).pose = (a.link l).pose)
    (hout : ∀ l ∉ (a.body b).joints, P.link l = a.link l) :
    (P.forwardKinematics b).setJointPositions b (a.body b).joints ((a.body b).joints.map fun j => (a.link j).joint.q) =
      a.forwardKinematics b := by
  set js := (a.body b).joints with hjs
  set qs := js.map fun j => (a.link j).joint.q with hqs
  set A := P.forwardKinematics b with hA
  have hnd : js.toList.Nodup := hx.joints_nodup
  have hin : ∀ j ∈ js, j.idx < A.links.size := fun j hj => by
    rw [hA, size_forwardKinematics, hs]
    exact hx.lt_size_of_mem (hx.joint_mem hj)
  have hbody : (P.body b) = a.body b := by simp only [body, hb]
  have hAv : ∀ l, (A.link l).withoutPosition = (a.link l).withoutPosition := fun l =>
    (forwardKinematics_keeps P Link.withoutPosition (fun _ _ => rfl) b l).trans (hv l).1
  have hAout : ∀ l ∉ (a.body b).links, A.link l = P.link l := fun l hl => by
    rw [hA, link_forwardKinematics_of_not_mem P b (by rw [hbody]; exact hl)]
  rw [setJointPositions_eq]
  refine forwardKinematics_congr (fun l => ?_) hx (by simp [hA, hb]) (by simp [hA, hs]) (by simp [hA, hid])
    (fun l hl => ?_) (fun hm => ?_)
  · -- a joint is back at its position, every other link as it was but for its pose
    by_cases hl : l ∈ js.toList
    · obtain ⟨k, hk, rfl⟩ := List.mem_iff_getElem.1 hl
      simp only [Array.length_toList] at hk
      simp only [Array.getElem_toList]
      rw [link_setPositions_getElem hnd hin qs hk (by simpa [hqs] using hk)]
      simp only [hqs, Array.getElem_map]
      exact Link.withoutPose_withPosition (hAv _)
    · rw [link_setPositions_of_not_mem hnd hin qs hl, hA, forwardKinematics_keeps P Link.withoutPose (fun _ _ => rfl),
        hout l (fun hm => hl (Array.mem_toList_iff.2 hm))]
  · -- a link of another body is left alone
    have hl' : l ∉ js.toList := fun hm => hl (hx.joint_mem (Array.mem_toList_iff.1 hm))
    rw [link_setPositions_of_not_mem hnd hin qs hl', hAout l hl, hout l fun hm => hl' (Array.mem_toList_iff.2 hm)]
  · -- an unmounted root keeps the pose it had
    have hstate : ∀ l, (P.link l).withoutState = (a.link l).withoutState := fun l => by
      have h := congrArg Link.withoutState (hv l).1
      exact h
    have hm' : P.hasParentBody (P.link t.root) = false := by rwa [hasParentBody_congr hstate]
    rw [setPositions_keeps Link.pose (fun _ _ => rfl), hA, forwardKinematics_root_pose P b (by rw [hbody]; exact hx.root) hm']
    exact (hv t.root).2

theorem mechanicalEnergy_eq (g : Vec3) : ∃ e, a.mechanicalEnergy b g = .ok (a.forwardKinematics b, e) := by
  unfold mechanicalEnergy
  dsimp only
  generalize hP : Array.foldl _ a (a.body b).joints = P
  -- moving the joints along their rates changes their positions alone
  obtain ⟨hb, hs, hid, hv⟩ : P.bodies = a.bodies ∧ P.links.size = a.links.size ∧ P.nextIdentity = a.nextIdentity ∧
      ∀ l, (P.link l).withoutPosition = (a.link l).withoutPosition ∧ (P.link l).pose = (a.link l).pose := by
    rw [← hP]
    refine foldl_modifyLink_positions ?_ _ a
    exact fun _ => ⟨rfl, rfl⟩
  have hout : ∀ l ∉ (a.body b).joints, P.link l = a.link l := fun l hl => by
    rw [← hP, ← Array.foldl_toList]
    exact link_foldl_modifyLink_of_not_mem _ _ _ fun hm => hl (Array.mem_toList_iff.1 hm)
  have hroot : (P.forwardKinematics b).rootOf b = .ok t.root := by
    simp only [rootOf, body, bodies_forwardKinematics, hb]
    rw [show a.bodies.getD b.idx default = a.body b from rfl, hx.root]
  rw [hroot]
  exact ⟨_, by rw [← forwardKinematics_restored hx hb hs hid hv hout]; rfl⟩

theorem mechanicalEnergy_of_kinematic (hk : a.Kinematic b) (g : Vec3) : ∃ e, a.mechanicalEnergy b g = .ok (a, e) := by
  obtain ⟨e, he⟩ := mechanicalEnergy_eq hx g
  rw [hk.forwardKinematics_eq hx] at he
  exact ⟨e, he⟩

end Indexed

theorem mechanicalEnergy_reposes_stale_slide (g : Vec3) :
    ∃ e, staleSlide.mechanicalEnergy ⟨0⟩ g = .ok (slide, e) ∧ (slide.link ⟨1⟩).pose ≠ (staleSlide.link ⟨1⟩).pose := by
  obtain ⟨e, he⟩ := mechanicalEnergy_eq staleSlide_indexed g
  refine ⟨e, he, fun h => ?_⟩
  have hz := congrArg Mat4.m14 h
  revert hz
  decide +kernel

end Assembly

theorem Metric.observe_of_kinematic {a : Assembly} {b : BodyId} {t : LinkTree} (hx : a.Indexed b t)
    (hk : a.Kinematic b) (m : Metric) : ∃ m', m.observe a b = .ok (a, m') := by
  cases m with
  | energy g total n =>
    obtain ⟨e, he⟩ := a.mechanicalEnergy_of_kinematic hx hk g
    exact ⟨_, by simp only [Metric.observe, he]; rfl⟩
  | energyDrift g initial maxDrift n =>
    obtain ⟨e, he⟩ := a.mechanicalEnergy_of_kinematic hx hk g
    exact ⟨_, by simp only [Metric.observe, he]; rfl⟩
  | controlEffort sum n => exact ⟨_, rfl⟩
  | stability th v n => exact ⟨_, rfl⟩

theorem forIn_yield_of {α β γ : Type} (f : α → Option γ × β → Id (ForInStep (Option γ × β))) (P : β → Prop) :
    ∀ (l : List α), (∀ x ∈ l, ∀ s, P s → ∃ s', P s' ∧ f x (none, s) = .yield (none, s')) →
      ∀ s, P s → ∃ s', P s' ∧ forIn l (none, s) f = (none, s')
  | [], _, s, hs => ⟨s, hs, rfl⟩
  | x :: l, hf, s, hs => by
    obtain ⟨s', hs', hx⟩ := hf x List.mem_cons_self s hs
    rw [List.forIn_cons, hx]
    exact forIn_yield_of f P l (fun y hy => hf y (List.mem_cons_of_mem _ hy)) s' hs'

namespace App.Rig

variable {κ ω : Type}

theorem observeSet_of_kinematic (rig : Rig κ ω) (k : Nat)
    (h : ∀ set ∈ rig.session.sets[k]?, ∀ sbk ∈ rig.sim.run.bind (·.bodyOf? set.item),
      ∃ t, rig.assembly.Indexed (rig.run.bodies.getD sbk default).body t ∧
        rig.assembly.Kinematic (rig.run.bodies.getD sbk default).body) :
    rig.observeSet k = (rig, none) ∨
      ∃ ms, rig.observeSet k =
        (rig.modifyCrew fun c => { c with sets := c.sets.modify k fun st => { st with metrics := ms } }, none) := by
  unfold observeSet
  split
  · rename_i set hset
    split
    · rename_i sbk hsbk
      obtain ⟨t, hxi, hk⟩ := h set hset sbk hsbk
      dsimp only
      rw [← Array.forIn_toList]
      generalize hr : (forIn set.metrics.toList (none, rig.assembly, #[]) _ :
        Id (Option (Rig κ ω × Option String) × Assembly × Array Metric)) = r
      -- every observation succeeds on the assembly as it is, so the loop runs to its end
      obtain ⟨⟨a', ms⟩, rfl, rfl⟩ : ∃ s : Assembly × Array Metric, s.1 = rig.assembly ∧ r = (none, s) := by
        rw [← hr]
        refine forIn_yield_of _ (fun s : Assembly × Array Metric => s.1 = rig.assembly) _ ?_ (rig.assembly, #[]) rfl
        rintro m - ⟨a', ms⟩ rfl
        obtain ⟨m', hm⟩ := Metric.observe_of_kinematic hxi hk m
        refine ⟨(rig.assembly, ms.push m'), rfl, ?_⟩
        dsimp only
        rw [hm]
        rfl
      exact Or.inr ⟨ms, rfl⟩
    · exact Or.inl rfl
  · exact Or.inl rfl

end App.Rig

end Multibody
