import Multibody.Proofs.Body.Kinematics
import Multibody.Api.BodyOps

/-!
# Snapshot round trip

A snapshot holds each joint's position, rate and effort and the root pose
(`takeSnapshot_base`); applied to an indexed body it restores them and runs
forward kinematics (`applySnapshot_of_indexed`).  Links are posed again, not
read back, so a body gets its poses back when they were where forward
kinematics puts them (`snapshot_round_trip`, `stale_pose_is_not_restored`).
Named slots hold copies (`Api.snapshotAnswer_slots`).
-/

namespace Multibody

theorem exists_of_bind_eq_ok {ε α β : Type} {x : Except ε α} {f : α → Except ε β} {r : β}
    (h : x >>= f = .ok r) : ∃ v, x = .ok v ∧ f v = .ok r := by
  cases x with
  | error e => cases h
  | ok v => exact ⟨v, rfl, h⟩

theorem Mat4.eq_of_toList_eq {m n : Mat4} (h : m.toList = n.toList) : m = n := by
  cases m
  cases n
  simp_all [Mat4.toList]

theorem Link.jointTransform_congr {l₁ l₂ : Link} (h : l₁.withoutMotion = l₂.withoutMotion)
    (hq : l₁.jointType.isActuated = true → l₁.joint.q = l₂.joint.q) : l₁.jointTransform = l₂.jointTransform := by
  have hjt : l₁.jointType = l₂.jointType := Link.view_eq_of_withoutMotion Link.jointType (fun _ => rfl) h
  have hax : l₁.axis = l₂.axis := Link.view_eq_of_withoutMotion Link.axis (fun _ => rfl) h
  unfold jointTransform
  rw [← hjt, hax]
  cases hty : l₁.jointType
  case revolute => rw [hq (by simp [hty, JointType.isActuated])]
  case prismatic => rw [hq (by simp [hty, JointType.isActuated])]
  all_goals rfl

theorem Link.withoutMotion_eq_of_withoutState {l₁ l₂ : Link} (h : l₁.withoutState = l₂.withoutState) :
    l₁.withoutMotion = l₂.withoutMotion := by
  have := congrArg Link.withoutMotion h
  exact this

/-- The state of joint `j` with the position, rate and effort of `m`: what a
snapshot of `m` restores. -/
def JointState.withMotionOf (j m : JointState) : JointState := { j with q := m.q, dq := m.dq, u := m.u }

theorem Snapshot.restoreJoint_of_recorded {s : Snapshot} {js : Array LinkId} (f : LinkId → JointState)
    (hq : s.q = js.map fun j => (f j).q) (hdq : s.dq = js.map fun j => (f j).dq) (hu : s.u = js.map fun j => (f j).u)
    {k : Nat} (hk : k < js.size) (l : Link) : (s.restoreJoint k l).joint = l.joint.withMotionOf (f js[k]) := by
  unfold restoreJoint
  rw [hq, hdq, hu]
  simp [JointState.withMotionOf, Array.getD_eq_getD_getElem?, hk]

namespace Assembly

variable {a x y : Assembly} {b c : BodyId} {t t' : LinkTree} {r : LinkId}

/-! ## Taking a snapshot -/

theorem takeSnapshot_base (base : Snapshot) (opts : SnapshotOptions) :
    a.takeSnapshot b base opts =
      (a.takeSnapshot b {} opts).map fun s => { s with frame := base.frame, time := base.time } := by
  unfold takeSnapshot
  cases a.rootOf b <;> rfl

theorem takeSnapshot_of_root (hr : (a.body b).root = some r) (base : Snapshot) (opts : SnapshotOptions) :
    ∃ s, a.takeSnapshot b base opts = .ok s ∧
      s.q = (a.body b).joints.map (fun j => (a.link j).joint.q) ∧
      s.dq = (a.body b).joints.map (fun j => (a.link j).joint.dq) ∧
      s.u = (a.body b).joints.map (fun j => (a.link j).joint.u) ∧
      s.root = Pose.ofMat4 (a.link r).pose := by
  have hroot : a.rootOf b = .ok r := by
    unfold rootOf
    rw [hr]
  unfold takeSnapshot
  simp only [hroot]
  exact ⟨_, rfl, Array.map_map .., Array.map_map .., Array.map_map .., rfl⟩

/-! ## Applying a snapshot -/

/-- Applying a snapshot to an indexed body succeeds.  It restores in order
the joints the snapshot has positions for and keeps the state of the others,
places an unmounted root at the snapshot's root pose, and leaves the body
kinematic, with every link as built. -/
theorem applySnapshot_of_indexed (h : y.Indexed c t') (s : Snapshot) :
    ∃ y', y.applySnapshot c s = .ok y' ∧ y'.bodies = y.bodies ∧
      (∀ l, (y'.link l).withoutMotion = (y.link l).withoutMotion) ∧ y'.Kinematic c ∧
      (∀ k (hk : k < (y.body c).joints.size), k < s.q.size →
        (y'.link (y.body c).joints[k]).joint = (s.restoreJoint k (y.link (y.body c).joints[k])).joint) ∧
      (∀ k (hk : k < (y.body c).joints.size), s.q.size ≤ k →
        (y'.link (y.body c).joints[k]).joint = (y.link (y.body c).joints[k]).joint) ∧
      (y.hasParentBody (y.link t'.root) = false → (y'.link t'.root).pose = s.root.toMat4) := by
  have hnd := h.joints_nodup
  have hin : ∀ j ∈ (y.body c).joints, j.idx < y.links.size := fun j hj => h.lt_size_of_mem (h.joint_mem hj)
  -- the joints restored, then the root placed
  let F := y.restoreJoints c s
  let G := F.placeRoot t'.root s
  have hGb : G.bodies = y.bodies := by simp only [G, F, bodies_placeRoot, bodies_restoreJoints]
  have hGw : ∀ l, (G.link l).withoutMotion = (y.link l).withoutMotion := fun l =>
    Link.withoutMotion_eq_of_withoutState ((F.withoutState_placeRoot l).trans (y.withoutState_restoreJoints l))
  have hGj : ∀ l, (G.link l).joint = (F.link l).joint := F.joint_placeRoot
  refine ⟨G.forwardKinematics c, y.applySnapshot_eq h.root, by rw [bodies_forwardKinematics, hGb],
    fun l => (withoutMotion_forwardKinematics G c l).trans (hGw l),
    forwardKinematics_kinematic (Indexed.congr hGb hGw h), fun k hk hkq => ?_, fun k hk hkq => ?_, fun hm => ?_⟩
  · rw [forwardKinematics_keeps G Link.joint (fun _ _ => rfl), hGj, y.link_restoreJoints_getElem hnd hin hk hkq]
  · -- a joint past the snapshot's positions is not among those restored
    have hl : (y.body c).joints[k] ∉ (y.body c).joints.toList.take s.q.size := by
      have := getElem_not_mem_take hnd (n := k) (by simpa using hk) hkq
      rwa [Array.getElem_toList] at this
    rw [forwardKinematics_keeps G Link.joint (fun _ _ => rfl), hGj, y.link_restoreJoints_of_not_mem hnd hin hl]
  · have hFm : F.hasParentBody (F.link t'.root) = false :=
      (hasParentBody_congr (y.withoutState_restoreJoints) t'.root).trans hm
    have hGm : G.hasParentBody (G.link t'.root) = false := by
      rw [hasParentBody_of_withoutMotion hGw]
      exact hm
    have hGr : (G.body c).root = some t'.root := by
      simpa only [G, F, body_placeRoot, body_restoreJoints] using h.root
    rw [forwardKinematics_root_pose G c hGr hGm,
      F.pose_placeRoot (by simpa only [F, size_restoreJoints] using h.lt_size_of_mem (h.root_mem h.root)) hFm]

theorem Indexed.jointTransform_eq (h : x.Indexed b t) (hw : ∀ l, (y.link l).withoutMotion = (x.link l).withoutMotion)
    (hq : ∀ k (hk : k < (x.body b).joints.size),
      (y.link (x.body b).joints[k]).joint.q = (x.link (x.body b).joints[k]).joint.q) :
    ∀ l ∈ (x.body b).links, (y.link l).jointTransform = (x.link l).jointTransform := by
  intro l hl
  refine Link.jointTransform_congr (hw l) fun hact => ?_
  -- a link whose joint moves is one of the body's joints
  have hact' : (x.link l).jointType.isActuated = true := by
    rwa [← Link.view_eq_of_withoutMotion Link.jointType (fun _ => rfl) (hw l)]
  have hlj : l ∈ (x.body b).joints := by
    rw [← Array.mem_toList_iff, h.joints, ← h.links]
    exact List.mem_filter.2 ⟨Array.mem_toList_iff.2 hl, hact'⟩
  obtain ⟨k, hk, rfl⟩ := Array.mem_iff_getElem.1 hlj
  exact hq k hk

end Assembly

/-! ## Saved snapshots -/

namespace Api

theorem Bench.slot?_putSlot (w : Bench) (m n : String) (sl : Slot) :
    (w.putSlot m sl).slot? n = if m = n then some sl else w.slot? n := by
  unfold Bench.slot? Bench.putSlot
  by_cases h : m = n
  · subst h
    simp
  · rw [if_neg h, List.find?_cons_of_neg (by simpa using h), List.find?_filter]
    congr 2
    funext e
    by_cases he : e.1 = n
    · simp [he, Ne.symm h]
    · simp [he]

theorem Bench.slot?_putSlot_of_ne (w : Bench) {m n : String} (sl : Slot) (h : m ≠ n) :
    (w.putSlot m sl).slot? n = w.slot? n := by
  rw [slot?_putSlot, if_neg h]

/-- A snapshot request takes the snapshot of the body, over the slot it
reuses if it names one, and answers it.  It changes no slot but the one it
reuses and the one it saves into, and the one it saves into then holds a
copy of the snapshot. -/
theorem snapshotAnswer_slots {w : Bench} {b : BodyId} {op : Json} {w' : Bench} {j : Json}
    (h : snapshotAnswer w b op = .ok (.ok (w', j))) :
    ∃ reuse save s, str? op "reuse" = .ok reuse ∧ str? op "save" = .ok save ∧ j = snapshotJson s ∧
      (∃ base options, w.assembly.takeSnapshot b base options = .ok s) ∧
      (∀ n, reuse ≠ some n → save ≠ some n → w'.slot? n = w.slot? n) ∧
      (∀ n, save = some n → w'.slot? n = some (Slot.ofSnapshot s)) := by
  unfold snapshotAnswer at h
  obtain ⟨_, -, h₁⟩ := exists_of_bind_eq_ok h
  obtain ⟨_, -, h₂⟩ := exists_of_bind_eq_ok h₁
  obtain ⟨_, -, h₃⟩ := exists_of_bind_eq_ok h₂
  obtain ⟨reuse, hreuse, h₄⟩ := exists_of_bind_eq_ok h₃
  obtain ⟨save, hsave, h₅⟩ := exists_of_bind_eq_ok h₄
  obtain ⟨s, hs, h₆⟩ := exists_of_bind_eq_ok (Except.ok.inj h₅)
  cases h₆
  refine ⟨reuse, save, s, hreuse, hsave, rfl, ⟨_, _, hs⟩, fun n hr hsv => ?_, fun n hsv => ?_⟩
  · -- the slot saved into, if any, is another one, and so is the slot taken over
    rcases save with _ | m <;> dsimp only
    · split
      next _ _ m _ _ => exact Bench.slot?_putSlot_of_ne w _ fun e : m = n => hr (e ▸ rfl)
      next => rfl
    · rw [Bench.slot?_putSlot_of_ne _ _ fun e : m = n => hsv (e ▸ rfl)]
      split
      next _ _ m' _ _ => exact Bench.slot?_putSlot_of_ne w _ fun e : m' = n => hr (e ▸ rfl)
      next => rfl
  · subst hsv
    exact (Bench.slot?_putSlot _ _ _ _).trans (if_pos rfl)

end Api

namespace Assembly

variable {x : Assembly} {b : BodyId} {t : LinkTree}

/-! ## The round trip -/

/-- Snapshot round trip.  A snapshot with fewer positions than a body has
joints restores the first joints and keeps the others.  A snapshot of an
indexed body with an unmounted root is the same whatever it is taken over,
but for the frame and the time, and records the root pose.  Applied to any
indexed body with as many joints, it gives each joint the position, rate and
effort of its counterpart, places an unmounted root at the recorded pose and
leaves the body kinematic.  Applied back to the body after any motion, it
puts every link where it was, when the links were where forward kinematics
puts them and the root pose comes back unchanged from the position and the
quaternion.  A snapshot request changes no saved snapshot but the one it
takes over and the one it saves a copy into. -/
theorem snapshot_round_trip (hx : x.Indexed b t) (hm : x.hasParentBody (x.link t.root) = false)
    (opts : SnapshotOptions) :
    (∀ (w : Api.Bench) (c : BodyId) (op : Json) (w' : Api.Bench) (j : Json),
      Api.snapshotAnswer w c op = .ok (.ok (w', j)) →
      ∃ reuse save s, Api.str? op "reuse" = .ok reuse ∧ Api.str? op "save" = .ok save ∧
        j = Api.snapshotJson s ∧ (∃ base options, w.assembly.takeSnapshot c base options = .ok s) ∧
        (∀ n, reuse ≠ some n → save ≠ some n → w'.slot? n = w.slot? n) ∧
        (∀ n, save = some n → w'.slot? n = some (Api.Slot.ofSnapshot s))) ∧
    (∀ (s : Snapshot) (y : Assembly) (c : BodyId) (t' : LinkTree), y.Indexed c t' →
      ∃ y', y.applySnapshot c s = .ok y' ∧
        (∀ k (hk : k < (y.body c).joints.size), k < s.q.size →
          (y'.link (y.body c).joints[k]).joint = (s.restoreJoint k (y.link (y.body c).joints[k])).joint) ∧
        (∀ k (hk : k < (y.body c).joints.size), s.q.size ≤ k →
          (y'.link (y.body c).joints[k]).joint = (y.link (y.body c).joints[k]).joint)) ∧
    ∃ s : Snapshot,
      (∀ base, x.takeSnapshot b base opts = .ok { s with frame := base.frame, time := base.time }) ∧
      s.root = Pose.ofMat4 (x.link t.root).pose ∧
      (∀ (y : Assembly) (c : BodyId) (t' : LinkTree), y.Indexed c t' →
        (y.body c).joints.size = (x.body b).joints.size →
        ∃ y', y.applySnapshot c s = .ok y' ∧ y'.Kinematic c ∧
          (∀ k (hk : k < (y.body c).joints.size) (hk' : k < (x.body b).joints.size),
            (y'.link (y.body c).joints[k]).joint =
              (y.link (y.body c).joints[k]).joint.withMotionOf (x.link (x.body b).joints[k]).joint) ∧
          (y.hasParentBody (y.link t'.root) = false → (y'.link t'.root).pose = s.root.toMat4)) ∧
      (x.Kinematic b → s.root.toMat4 = (x.link t.root).pose →
        ∀ y : Assembly, y.bodies = x.bodies → (∀ l, (y.link l).withoutMotion = (x.link l).withoutMotion) →
          ∃ y', y.applySnapshot b s = .ok y' ∧ ∀ l ∈ (x.body b).links, (y'.link l).pose = (x.link l).pose) := by
  obtain ⟨s, hs, hq, hdq, hu, hsr⟩ := x.takeSnapshot_of_root hx.root {} opts
  have hqsize : s.q.size = (x.body b).joints.size := by rw [hq, Array.size_map]
  refine ⟨fun w c op w' j h => Api.snapshotAnswer_slots h, fun s' y c t' h => ?_, s, fun base => ?_, hsr,
    fun y c t' h hn => ?_, fun hk hexact y hb hl => ?_⟩
  · obtain ⟨y', hy', -, -, -, hj, hkeep, -⟩ := applySnapshot_of_indexed h s'
    exact ⟨y', hy', hj, hkeep⟩
  · rw [takeSnapshot_base, hs]
    rfl
  · obtain ⟨y', hy', -, -, hkin, hj, -, hroot⟩ := applySnapshot_of_indexed h s
    refine ⟨y', hy', hkin, fun k hk hk' => ?_, hroot⟩
    rw [hj k hk (hqsize ▸ hk')]
    exact Snapshot.restoreJoint_of_recorded (fun j => (x.link j).joint) hq hdq hu hk' _
  · -- the same body after any motion: the recorded joints and root, then forward kinematics
    have hy : y.Indexed b t := Indexed.congr hb hl hx
    have hbody : y.body b = x.body b := by simp only [body, hb]
    obtain ⟨y', hy', hb', hl', hkin, hj, -, hroot⟩ := applySnapshot_of_indexed hy s
    refine ⟨y', hy', Kinematic.pose_eq hk hkin hx (hb'.trans hb) (fun l => (hl' l).trans (hl l)) ?_ ?_⟩
    · rw [hroot (by rw [hasParentBody_of_withoutMotion hl]; exact hm), hexact]
    · -- each joint is restored from the record
      refine hx.jointTransform_eq (fun l => (hl' l).trans (hl l)) fun k hk => ?_
      have hk' : k < (y.body b).joints.size := by rwa [hbody]
      have hrec := Snapshot.restoreJoint_of_recorded (fun j => (x.link j).joint) hq hdq hu hk
        (y.link (y.body b).joints[k])
      rw [← hj k hk' (hqsize ▸ hk)] at hrec
      have hpos := congrArg JointState.q hrec
      simp only [JointState.withMotionOf, hbody] at hpos
      exact hpos

/-- A base and a slider on a prismatic joint along `z`, at position 0.5, as
built: neither indexed nor posed. -/
def slideParts : Assembly where
  links := #[{ name := "base", children := #[⟨1⟩] },
             { name := "slider", parent := some ⟨0⟩, jointType := .prismatic, joint := { q := 0.5 } }]
  bodies := #[{ name := "slide", modelName := "slide", root := some ⟨0⟩ }]

/-- The tree of the slide: the base, and the slider below it. -/
def slideTree : LinkTree := .node ⟨0⟩ [.node ⟨1⟩ []]

/-- The slide indexed but not posed: the slider, at position 0.5, still
stands where position 0 puts it. -/
def staleSlide : Assembly := slideParts.updateLinkTree ⟨0⟩

/-- The slide indexed and posed. -/
def slide : Assembly := staleSlide.forwardKinematics ⟨0⟩

theorem staleSlide_indexed : staleSlide.Indexed ⟨0⟩ slideTree := by
  refine updateLinkTree_indexed rfl ?_ (by decide) (by decide)
  refine .node _ _ rfl (by simp [slideParts, link]) fun t ht => ?_
  simp only [List.mem_singleton] at ht
  subst ht
  exact .node _ _ rfl (by simp) (by simp)

theorem slide_snapshot_round_trip :
    slide.Indexed ⟨0⟩ slideTree ∧ slide.hasParentBody (slide.link ⟨0⟩) = false ∧ slide.Kinematic ⟨0⟩ ∧
      ∃ s a', (∀ base, slide.takeSnapshot ⟨0⟩ base {} = .ok { s with frame := base.frame, time := base.time }) ∧
        slide.applySnapshot ⟨0⟩ s = .ok a' ∧ ∀ l ∈ (slide.body ⟨0⟩).links, (a'.link l).pose = (slide.link l).pose := by
  have hx : slide.Indexed ⟨0⟩ slideTree :=
    Indexed.congr (bodies_forwardKinematics _ _) (withoutMotion_forwardKinematics _ _) staleSlide_indexed
  have hm : slide.hasParentBody (slide.link ⟨0⟩) = false := by decide +kernel
  have hk : slide.Kinematic ⟨0⟩ := forwardKinematics_kinematic staleSlide_indexed
  obtain ⟨-, -, s, hbase, hsr, -, hback⟩ := snapshot_round_trip hx hm {}
  -- the base stands at the origin, which comes back exactly from a position and a quaternion
  have hexact : s.root.toMat4 = (slide.link slideTree.root).pose := by
    rw [hsr]
    exact Mat4.eq_of_toList_eq (by decide +kernel)
  obtain ⟨a', ha', hpose⟩ := hback hk hexact slide rfl (fun _ => rfl)
  exact ⟨hx, hm, hk, s, a', hbase, ha', hpose⟩

/-- A link moved by a change of joint that no forward kinematics followed is
not put back where it stood: the snapshot records the slider's position 0.5,
and applying it poses the slider half a unit up. -/
theorem stale_pose_is_not_restored :
    ∃ s a', staleSlide.takeSnapshot ⟨0⟩ {} {} = .ok s ∧ staleSlide.applySnapshot ⟨0⟩ s = .ok a' ∧
      (a'.link ⟨1⟩).pose ≠ (staleSlide.link ⟨1⟩).pose := by
  refine ⟨_, _, rfl, staleSlide.applySnapshot_eq staleSlide_indexed.root, fun h => ?_⟩
  have hz := congrArg Mat4.m14 h
  revert hz
  decide +kernel

end Assembly

end Multibody
