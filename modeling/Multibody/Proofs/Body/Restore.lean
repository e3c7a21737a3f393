import Multibody.Proofs.Recording.Records
import Mathlib.Data.List.Nodup

/-!
# What a published snapshot restores

A continued run puts each rebuilt clone in its item's last published state
(`Assembly.applySnapshot`): the joints' positions, rates and efforts and an
unmounted root's pose, nothing else
(`applySnapshot_restores_joints_and_root`, `Lab.applyStates_keeps_links`).
So a free root restarts at its master's velocity.
-/

namespace Multibody

/-- A link with its joint state and pose set aside: what a snapshot does not
restore. -/
def Link.withoutState (l : Link) : Link := { l with joint := {}, pose := Mat4.ident }

@[simp] theorem Link.withoutState_restoreJoint (s : Snapshot) (i : Nat) (l : Link) :
    (s.restoreJoint i l).withoutState = l.withoutState := rfl

@[simp] theorem Link.withoutState_setPose (l : Link) (p : Mat4) :
    ({ l with pose := p } : Link).withoutState = l.withoutState := rfl

theorem LinkId.beq_self (r : LinkId) : (r == r) = true := by
  cases r
  show instBEqLinkId.beq _ _ = true
  unfold instBEqLinkId.beq
  simp

namespace Assembly

variable (a : Assembly)

@[simp] theorem size_modifyLink (j : LinkId) (f : Link → Link) :
    (a.modifyLink j f).links.size = a.links.size := by
  simp [modifyLink]

@[simp] theorem size_setLink (j : LinkId) (v : Link) : (a.setLink j v).links.size = a.links.size := by
  simp [setLink]

@[simp] theorem body_modifyLink (j : LinkId) (f : Link → Link) (b : BodyId) :
    (a.modifyLink j f).body b = a.body b := rfl

@[simp] theorem body_setLink (j : LinkId) (v : Link) (b : BodyId) : (a.setLink j v).body b = a.body b := rfl

theorem link_modifyLink (j l : LinkId) (f : Link → Link) :
    (a.modifyLink j f).link l = if j = l ∧ l.idx < a.links.size then f (a.link l) else a.link l := by
  unfold link modifyLink
  simp only [Array.getD_eq_getD_getElem?, Array.getElem?_modify]
  by_cases hjl : j = l
  · subst hjl
    by_cases hr : j.idx < a.links.size <;> simp [hr]
  · have hidx : j.idx ≠ l.idx := fun h => hjl (by cases j; cases l; simp_all)
    simp [hjl, hidx]

theorem link_setLink (j l : LinkId) (v : Link) :
    (a.setLink j v).link l = if j = l ∧ l.idx < a.links.size then v else a.link l := by
  unfold link setLink
  simp only [Array.getD_eq_getD_getElem?, Array.set!_eq_setIfInBounds, Array.getElem?_setIfInBounds]
  by_cases hjl : j = l
  · subst hjl
    by_cases hr : j.idx < a.links.size <;> simp [hr]
  · have hidx : j.idx ≠ l.idx := fun h => hjl (by cases j; cases l; simp_all)
    simp [hjl, hidx]

theorem link_modifyLink_of_ne {j l : LinkId} (f : Link → Link) (h : j ≠ l) :
    (a.modifyLink j f).link l = a.link l := by
  simp [link_modifyLink, h]

theorem link_modifyLink_keeps {β : Type} (g : Link → β) {f : Link → Link} (hf : ∀ x, g (f x) = g x)
    (j l : LinkId) : g ((a.modifyLink j f).link l) = g (a.link l) := by
  rw [link_modifyLink]
  split <;> simp [hf]

theorem link_setLink_keeps {β : Type} (g : Link → β) {j : LinkId} {v : Link} (hv : g v = g (a.link j))
    (l : LinkId) : g ((a.setLink j v).link l) = g (a.link l) := by
  rw [link_setLink]
  split
  · rename_i h
    rw [← h.1]
    exact hv
  · rfl

theorem hasParentBody_congr {x y : Assembly}
    (h : ∀ l, (x.link l).withoutState = (y.link l).withoutState) (l : LinkId) :
    x.hasParentBody (x.link l) = y.hasParentBody (y.link l) := by
  have hparent := congrArg Link.parent (h l)
  have hbody : ∀ l, (x.link l).body = (y.link l).body := fun l => by
    have := congrArg Link.body (h l)
    exact this
  dsimp only [Link.withoutState] at hparent
  unfold hasParentBody
  rw [hparent]
  cases (y.link l).parent with
  | none => rfl
  | some p => simp only [hbody p, hbody l]

theorem forwardKinematics_keeps {β : Type} (g : Link → β) (hg : ∀ (l : Link) (p : Mat4), g { l with pose := p } = g l)
    (b : BodyId) (l : LinkId) : g ((a.forwardKinematics b).link l) = g (a.link l) := by
  unfold forwardKinematics
  dsimp only
  -- every link agrees with the start on the view, after each link of the body
  refine Array.foldl_induction (fun _ (x : Assembly) => ∀ l, g (x.link l) = g (a.link l)) (fun _ => rfl) ?_ l
  intro i x hx l
  split
  · exact hx l
  · split
    · rw [link_setLink_keeps x g (hg _ _) l]
      exact hx l
    · exact hx l

theorem forwardKinematics_root_pose (b : BodyId) {r : LinkId} (hr : (a.body b).root = some r)
    (hm : a.hasParentBody (a.link r) = false) : ((a.forwardKinematics b).link r).pose = (a.link r).pose := by
  unfold forwardKinematics
  dsimp only
  -- the root is skipped, since it stays unmounted while only poses change
  refine (Array.foldl_induction
    (fun _ (x : Assembly) => (∀ l, (x.link l).withoutState = (a.link l).withoutState) ∧ (x.link r).pose = (a.link r).pose)
    ⟨fun _ => rfl, rfl⟩ ?_).2
  rintro i x ⟨hx, hxr⟩
  split
  · exact ⟨hx, hxr⟩
  · rename_i hskip
    have hne : (a.body b).links[i] ≠ r := by
      rintro hl
      rw [hl, hr, hasParentBody_congr hx r, hm] at hskip
      simp [LinkId.beq_self] at hskip
    split
    · refine ⟨fun l => (link_setLink_keeps x Link.withoutState (Link.withoutState_setPose _ _) l).trans (hx l), ?_⟩
      rw [link_setLink, if_neg (fun h => hne h.1)]
      exact hxr
    · exact ⟨hx, hxr⟩

theorem getElem_not_mem_take {α : Type} {l : List α} (hl : l.Nodup) {n m : Nat} (hn : n < l.length) (hm : m ≤ n) :
    l[n] ∉ l.take m := by
  intro hmem
  obtain ⟨j, hj, hjn⟩ := List.mem_take_iff_getElem.1 hmem
  have hjn' : j = n := (hl.getElem_inj_iff).1 hjn
  omega

theorem size_foldl_modifyLink (is : List Nat) (j : Nat → LinkId) (f : Nat → Link → Link) :
    (is.foldl (fun x i => x.modifyLink (j i) (f i)) a).links.size = a.links.size :=
  Sim.foldl_keeps (fun x : Assembly => x.links.size) _ (fun x _ => size_modifyLink x _ _) is a

theorem link_restoreJoints_keeps (s : Snapshot) (js : Array LinkId) (n : Nat) (l : LinkId) :
    (((List.range n).foldl (fun x i => x.modifyLink js[i]! (s.restoreJoint i)) a).link l).withoutState =
      (a.link l).withoutState :=
  Sim.foldl_keeps (fun x : Assembly => (x.link l).withoutState) (fun x i => x.modifyLink js[i]! (s.restoreJoint i))
    (fun x i => x.link_modifyLink_keeps Link.withoutState (Link.withoutState_restoreJoint s i) _ l) (List.range n) a

/-- Restoring the first `n` joints of a body from a snapshot, one after the
other as `applySnapshot` does: when the joints are distinct links of the
assembly, each of them is restored from the state it had, and every other
link is kept. -/
theorem link_restoreJoints (s : Snapshot) {js : Array LinkId} (hnd : js.toList.Nodup)
    (hin : ∀ j ∈ js, j.idx < a.links.size) :
    ∀ (n : Nat) (hn : n ≤ js.size),
      (∀ (k : Nat) (hk : k < n), ((List.range n).foldl (fun x i => x.modifyLink js[i]! (s.restoreJoint i)) a).link
          js[k] = s.restoreJoint k (a.link js[k])) ∧
      (∀ l ∉ js.toList.take n,
          ((List.range n).foldl (fun x i => x.modifyLink js[i]! (s.restoreJoint i)) a).link l = a.link l) := by
  intro n
  induction n with
  | zero => exact fun _ => ⟨fun k hk => absurd hk (Nat.not_lt_zero k), fun _ _ => rfl⟩
  | succ n ih =>
    intro hn
    obtain ⟨ih₁, ih₂⟩ := ih (by omega)
    rw [List.range_succ, List.foldl_append, List.foldl_cons, List.foldl_nil, getElem!_pos js n (by omega)]
    have hnot : js[n] ∉ js.toList.take n := by
      have := getElem_not_mem_take hnd (n := n) (by simp; omega) (Nat.le_refl n)
      rwa [Array.getElem_toList] at this
    refine ⟨fun k hk => ?_, fun l hl => ?_⟩
    · by_cases hkn : k = n
      · -- the joint restored last was untouched before
        subst hkn
        rw [link_modifyLink, if_pos ⟨rfl, by rw [size_foldl_modifyLink]; exact hin _ (Array.getElem_mem _)⟩,
          ih₂ _ hnot]
      · have hne : js[n] ≠ js[k] := fun h => hkn ((hnd.getElem_inj_iff (i := k) (j := n)).1 (by simpa using h.symm))
        rw [link_modifyLink_of_ne _ _ hne, ih₁ k (by omega)]
    · have hl' : l ∉ js.toList.take n := fun h => hl (List.take_subset_take_left _ (Nat.le_succ n) h)
      have hne : js[n] ≠ l := by
        rintro rfl
        exact hl (List.mem_take_iff_getElem.2 ⟨n, by simp; omega, by simp⟩)
      rw [link_modifyLink_of_ne _ _ hne, ih₂ l hl']

/-! ## The two stages of applying a snapshot -/

/-- The joints of body `b` restored from a snapshot, one after the other, as
far as the snapshot has positions for them. -/
def restoreJoints (a : Assembly) (b : BodyId) (s : Snapshot) : Assembly :=
  (List.range (min (a.body b).joints.size s.q.size)).foldl
    (fun x i => x.modifyLink (a.body b).joints[i]! (s.restoreJoint i)) a

/-- The pose of the root `r` set from a snapshot, when it hangs from no other
body. -/
def placeRoot (a : Assembly) (r : LinkId) (s : Snapshot) : Assembly :=
  if !a.hasParentBody (a.link r) then a.modifyLink r fun l => { l with pose := s.root.toMat4 } else a

section Stages

variable {b : BodyId} {s : Snapshot} {r : LinkId}

@[simp] theorem bodies_restoreJoints : (a.restoreJoints b s).bodies = a.bodies :=
  Sim.foldl_keeps (fun x : Assembly => x.bodies)
    (fun x i => x.modifyLink (a.body b).joints[i]! (s.restoreJoint i)) (fun _ _ => rfl) _ a

@[simp] theorem body_restoreJoints (c : BodyId) : (a.restoreJoints b s).body c = a.body c := by
  simp only [body, bodies_restoreJoints]

@[simp] theorem size_restoreJoints : (a.restoreJoints b s).links.size = a.links.size :=
  a.size_foldl_modifyLink _ _ _

theorem withoutState_restoreJoints (l : LinkId) :
    ((a.restoreJoints b s).link l).withoutState = (a.link l).withoutState :=
  a.link_restoreJoints_keeps s _ _ l

section Distinct

variable (hnd : (a.body b).joints.toList.Nodup) (hin : ∀ j ∈ (a.body b).joints, j.idx < a.links.size)
include hnd hin

theorem link_restoreJoints_getElem {k : Nat} (hk : k < (a.body b).joints.size) (hkq : k < s.q.size) :
    (a.restoreJoints b s).link (a.body b).joints[k] = s.restoreJoint k (a.link (a.body b).joints[k]) :=
  (a.link_restoreJoints s hnd hin _ (Nat.min_le_left _ _)).1 k (Nat.lt_min.2 ⟨hk, hkq⟩)

theorem link_restoreJoints_of_not_mem {l : LinkId} (hl : l ∉ (a.body b).joints.toList.take s.q.size) :
    (a.restoreJoints b s).link l = a.link l := by
  have hl' : l ∉ (a.body b).joints.toList.take (min (a.body b).joints.size s.q.size) := by
    rwa [List.take_eq_take_min, Nat.min_comm, Array.length_toList] at hl
  exact (a.link_restoreJoints s hnd hin _ (Nat.min_le_left _ _)).2 l hl'

end Distinct

@[simp] theorem bodies_placeRoot : (a.placeRoot r s).bodies = a.bodies := by
  unfold placeRoot
  split <;> rfl

@[simp] theorem body_placeRoot (c : BodyId) : (a.placeRoot r s).body c = a.body c := by
  simp only [body, bodies_placeRoot]

theorem withoutState_placeRoot (l : LinkId) : ((a.placeRoot r s).link l).withoutState = (a.link l).withoutState := by
  unfold placeRoot
  split
  · exact a.link_modifyLink_keeps Link.withoutState (fun x => Link.withoutState_setPose x _) r l
  · rfl

theorem joint_placeRoot (l : LinkId) : ((a.placeRoot r s).link l).joint = (a.link l).joint := by
  unfold placeRoot
  split
  · exact @link_modifyLink_keeps a _ Link.joint (fun l => { l with pose := s.root.toMat4 }) (fun _ => rfl) r l
  · rfl

theorem pose_placeRoot (hrl : r.idx < a.links.size) (hm : a.hasParentBody (a.link r) = false) :
    ((a.placeRoot r s).link r).pose = s.root.toMat4 := by
  simp only [placeRoot, hm, Bool.not_false, ↓reduceIte]
  rw [link_modifyLink, if_pos ⟨rfl, hrl⟩]

theorem applySnapshot_eq (hr : (a.body b).root = some r) :
    a.applySnapshot b s = .ok (((a.restoreJoints b s).placeRoot r s).forwardKinematics b) := by
  have hroot : (a.restoreJoints b s).rootOf b = .ok r := by
    unfold rootOf
    rw [body_restoreJoints, hr]
  show ((a.restoreJoints b s).rootOf b >>= fun r' =>
    pure (((a.restoreJoints b s).placeRoot r' s).forwardKinematics b)) = _
  rw [hroot]
  rfl

end Stages

theorem applySnapshot_keeps {b : BodyId} {s : Snapshot} {a' : Assembly} (h : a.applySnapshot b s = .ok a')
    (l : LinkId) : (a'.link l).withoutState = (a.link l).withoutState := by
  let F := (List.range (min (a.body b).joints.size s.q.size)).foldl
    (fun x i => x.modifyLink (a.body b).joints[i]! (s.restoreJoint i)) a
  change (F.rootOf b >>= fun r => pure ((if !F.hasParentBody (F.link r) then
      F.modifyLink r fun l => { l with pose := s.root.toMat4 } else F).forwardKinematics b)) = _ at h
  cases hr : F.rootOf b with
  | error e =>
    rw [hr] at h
    cases h
  | ok r =>
    simp only [hr, bind, Except.bind, pure, Except.pure, Except.ok.injEq] at h
    subst h
    rw [forwardKinematics_keeps _ Link.withoutState Link.withoutState_setPose]
    split
    · rw [link_modifyLink_keeps _ Link.withoutState (fun x => Link.withoutState_setPose x _)]
      exact a.link_restoreJoints_keeps s _ _ l
    · exact a.link_restoreJoints_keeps s _ _ l

end Assembly

/-- Applying a snapshot to a body with a root, whose joints are distinct links
of the assembly, succeeds.  It restores each joint the snapshot has a
position for from the state that joint had, and the root pose when the root
is unmounted; every other joint state is kept, and every link keeps all it
has but its joint state and pose: its velocities, mass, forces and place in
the tree. -/
theorem applySnapshot_restores_joints_and_root (a : Assembly) (b : BodyId) (s : Snapshot) {r : LinkId}
    (hr : (a.body b).root = some r) (hrl : r.idx < a.links.size) (hnd : (a.body b).joints.toList.Nodup)
    (hin : ∀ j ∈ (a.body b).joints, j.idx < a.links.size) :
    ∃ a', a.applySnapshot b s = .ok a' ∧
      (∀ l, (a'.link l).withoutState = (a.link l).withoutState) ∧
      (∀ (k : Nat) (hk : k < (a.body b).joints.size), k < s.q.size →
        (a'.link (a.body b).joints[k]).joint = (s.restoreJoint k (a.link (a.body b).joints[k])).joint) ∧
      (∀ l ∉ (a.body b).joints.toList.take s.q.size, (a'.link l).joint = (a.link l).joint) ∧
      (a.hasParentBody (a.link r) = false → (a'.link r).pose = s.root.toMat4) := by
  -- the joints restored one after the other, then the root of an unmounted body
  let F := a.restoreJoints b s
  let G := F.placeRoot r s
  have heq : a.applySnapshot b s = .ok (G.forwardKinematics b) := a.applySnapshot_eq hr
  have hFw : ∀ l, (F.link l).withoutState = (a.link l).withoutState := a.withoutState_restoreJoints
  have hGw : ∀ l, (G.link l).withoutState = (a.link l).withoutState := fun l =>
    (F.withoutState_placeRoot l).trans (hFw l)
  refine ⟨G.forwardKinematics b, heq, Assembly.applySnapshot_keeps a heq, fun k hk hkq => ?_, fun l hl => ?_,
    fun hm => ?_⟩
  · rw [Assembly.forwardKinematics_keeps G Link.joint (fun _ _ => rfl), F.joint_placeRoot,
      a.link_restoreJoints_getElem hnd hin hk hkq]
  · rw [Assembly.forwardKinematics_keeps G Link.joint (fun _ _ => rfl), F.joint_placeRoot,
      a.link_restoreJoints_of_not_mem hnd hin hl]
  · have hFm : F.hasParentBody (F.link r) = false := (Assembly.hasParentBody_congr hFw r).trans hm
    have hGm : G.hasParentBody (G.link r) = false := (Assembly.hasParentBody_congr hGw r).trans hm
    have hGr : (G.body b).root = some r := by
      simpa only [G, F, Assembly.body_placeRoot, Assembly.body_restoreJoints] using hr
    rw [Assembly.forwardKinematics_root_pose G b hGr hGm,
      F.pose_placeRoot (by simpa only [F, Assembly.size_restoreJoints] using hrl) hFm]

/-- A body of two links: a free root and an arm on a revolute joint. -/
def armAssembly : Assembly where
  links := #[{ name := "base", jointType := .free },
             { name := "arm", parent := some ⟨0⟩, body := some ⟨0⟩, jointType := .revolute }]
  bodies := #[{ name := "arm", modelName := "arm", root := some ⟨0⟩, links := #[⟨0⟩, ⟨1⟩], joints := #[⟨1⟩] }]

theorem applySnapshot_restores_joints_and_root_armAssembly :
    (armAssembly.body ⟨0⟩).root = some ⟨0⟩ ∧ (⟨0⟩ : LinkId).idx < armAssembly.links.size ∧
      (armAssembly.body ⟨0⟩).joints.toList.Nodup ∧
      (∀ j ∈ (armAssembly.body ⟨0⟩).joints, j.idx < armAssembly.links.size) ∧
      ∃ a', armAssembly.applySnapshot ⟨0⟩ { q := #[0.5] } = .ok a' ∧
        (∀ l, (a'.link l).withoutState = (armAssembly.link l).withoutState) ∧
        (∀ (k : Nat) (hk : k < (armAssembly.body ⟨0⟩).joints.size), k < (#[0.5] : Array Float).size →
          (a'.link (armAssembly.body ⟨0⟩).joints[k]).joint =
            (({ q := #[0.5] } : Snapshot).restoreJoint k (armAssembly.link (armAssembly.body ⟨0⟩).joints[k])).joint) ∧
        (∀ l ∉ (armAssembly.body ⟨0⟩).joints.toList.take (#[0.5] : Array Float).size,
          (a'.link l).joint = (armAssembly.link l).joint) ∧
        (armAssembly.hasParentBody (armAssembly.link ⟨0⟩) = false →
          (a'.link ⟨0⟩).pose = ({ q := #[0.5] } : Snapshot).root.toMat4) := by
  have hr : (armAssembly.body ⟨0⟩).root = some ⟨0⟩ := rfl
  have hrl : (⟨0⟩ : LinkId).idx < armAssembly.links.size := by decide
  have hnd : (armAssembly.body ⟨0⟩).joints.toList.Nodup := List.nodup_singleton _
  have hin : ∀ j ∈ (armAssembly.body ⟨0⟩).joints, j.idx < armAssembly.links.size := by
    simp [armAssembly, Assembly.body]
  exact ⟨hr, hrl, hnd, hin, applySnapshot_restores_joints_and_root armAssembly ⟨0⟩ { q := #[0.5] } hr hrl hnd hin⟩

namespace Sim

/-- A continued run puts its clones in the published states of their items,
and that keeps every link of the assembly but its joint state and pose: the
clones keep the velocities they were cloned with. -/
theorem Lab.applyStates_keeps_links {τ σ : Type} (lab : Lab τ σ) (pairs : List (Nat × BodyId)) (l : LinkId) :
    ((lab.applyStates pairs).assembly.link l).withoutState = (lab.assembly.link l).withoutState := by
  unfold Lab.applyStates
  apply foldl_keeps (fun lab : Lab τ σ => (lab.assembly.link l).withoutState)
  rintro lab ⟨i, c⟩
  dsimp only
  split
  · split
    · rename_i a' h
      exact Assembly.applySnapshot_keeps _ h l
    · rfl
  · rfl

end Sim

end Multibody
