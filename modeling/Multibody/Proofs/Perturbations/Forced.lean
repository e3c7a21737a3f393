import Multibody.Proofs.Perturbations.Wrench

/-!
# Forced poses

`Lab.holdForcedPoses` holds the root of an item's clone at its pose with the
rates scaled to zero and re-poses the clone, when the root hangs from no
other body (`Lab.heldRoot?`).  On a run of distinct indexed clones
(`Lab.IndexedRun`) each hold moves only its own body, so every held root
ends at its pose, at rest, and kinematic (`holdForcedPoses_holds`), with no
wrench changed (`wrench_holdForcedPoses`).
-/

namespace Multibody

/-- A link put at a pose with its rates scaled to zero. -/
def Link.heldAt (pose : Mat4) (l : Link) : Link := { l with pose := pose, v := l.v.scale 0.0, w := l.w.scale 0.0 }

@[simp] theorem Link.withoutMotion_heldAt (pose : Mat4) (l : Link) : (l.heldAt pose).withoutMotion = l.withoutMotion :=
  rfl

@[simp] theorem Link.wrench_heldAt (pose : Mat4) (l : Link) : (l.heldAt pose).wrench = l.wrench := rfl

namespace Assembly

/-- A root put at a pose with its rates scaled to zero, and its body re-posed. -/
def holdRoot (a : Assembly) (b : BodyId) (r : LinkId) (pose : Mat4) : Assembly :=
  (a.modifyLink r (Link.heldAt pose)).forwardKinematics b

/-- Root `r` of body `b` is held at `pose`: it is there with the rates of
`lk` scaled to zero, and the body is kinematic. -/
def Holds (a : Assembly) (b : BodyId) (r : LinkId) (pose : Mat4) (lk : Link) : Prop :=
  (a.link r).pose = pose ∧ (a.link r).v = lk.v.scale 0.0 ∧ (a.link r).w = lk.w.scale 0.0 ∧ a.Kinematic b

variable {a : Assembly} {b : BodyId} {r : LinkId} {t : LinkTree}

theorem movesOnly_holdRoot (hr : r ∈ (a.body b).links) (pose : Mat4) : MovesOnly b a (a.holdRoot b r pose) :=
  (movesOnly_modifyLink hr (Link.withoutMotion_heldAt pose)).trans (movesOnly_forwardKinematics _ b)

theorem wrench_holdRoot (pose : Mat4) (l : LinkId) : ((a.holdRoot b r pose).link l).wrench = (a.link l).wrench := by
  unfold holdRoot
  rw [forwardKinematics_keeps _ Link.wrench (fun _ _ => rfl), link_modifyLink_keeps a Link.wrench (Link.wrench_heldAt pose)]

theorem holdRoot_spec (h : a.Indexed b t) (hr : (a.body b).root = some r) (hm : a.hasParentBody (a.link r) = false)
    (pose : Mat4) : (a.holdRoot b r pose).Holds b r pose (a.link r) := by
  set x := a.modifyLink r (Link.heldAt pose) with hx
  have hrange : r.idx < a.links.size := h.lt_size_of_mem (h.root_mem hr)
  have hxr : x.link r = (a.link r).heldAt pose := by simp [hx, link_modifyLink, hrange]
  have hw : ∀ l, (x.link l).withoutMotion = (a.link l).withoutMotion :=
    link_modifyLink_keeps a _ (Link.withoutMotion_heldAt pose) r
  have hxm : x.hasParentBody (x.link r) = false := by rw [hasParentBody_of_withoutMotion hw, hm]
  have hxi : x.Indexed b t := h.congr (show x.bodies = a.bodies from rfl) hw
  refine ⟨?_, ?_, ?_, forwardKinematics_kinematic hxi⟩
  · rw [holdRoot, ← hx, forwardKinematics_root_pose x b hr hxm, hxr]
    rfl
  · rw [holdRoot, ← hx, forwardKinematics_keeps x Link.v (fun _ _ => rfl), hxr]
    rfl
  · rw [holdRoot, ← hx, forwardKinematics_keeps x Link.w (fun _ _ => rfl), hxr]
    rfl

theorem holdRoot_keeps (a : Assembly) (b : BodyId) (r : LinkId) (pose : Mat4) :
    (a.holdRoot b r pose).bodies = a.bodies ∧
      ∀ l, ((a.holdRoot b r pose).link l).withoutMotion = (a.link l).withoutMotion ∧
        ((a.holdRoot b r pose).link l).wrench = (a.link l).wrench := by
  refine ⟨bodies_forwardKinematics _ b, fun l => ⟨?_, wrench_holdRoot pose l⟩⟩
  unfold holdRoot
  rw [forwardKinematics_keeps _ Link.withoutMotion (fun _ _ => rfl),
    link_modifyLink_keeps a Link.withoutMotion (Link.withoutMotion_heldAt pose)]

theorem parentBodyLink?_of_unmounted (hr : (a.body b).root = some r) (hm : a.hasParentBody (a.link r) = false) :
    a.parentBodyLink? b = none := by
  simp [parentBodyLink?, hr, hm]

end Assembly

namespace Sim

variable {τ σ : Type}

namespace Lab

variable (lab : Lab τ σ)

/-- The body and root that a forced pose of `item` holds: the item takes part
in the run, its body has a root, and the root hangs from no other body. -/
def heldRoot? (item : Nat) : Option (BodyId × LinkId) :=
  match lab.run.bodyOf? item with
  | none => none
  | some k =>
    let b := (lab.run.bodies[k]!).body
    match (lab.assembly.body b).root with
    | none => none
    | some r => if lab.assembly.hasParentBody (lab.assembly.link r) then none else some (b, r)

/-- The run's bodies are distinct clones, each indexed. -/
structure IndexedRun : Prop where
  nodup : (lab.run.bodies.toList.map SimBody.body).Nodup
  indexed : ∀ b ∈ lab.run.bodies.toList.map SimBody.body, ∃ t, lab.assembly.Indexed b t

theorem IndexedRun.getElem {lab : Lab τ σ} (h : lab.IndexedRun) {k : Nat} (hk : k < lab.run.bodies.size) :
    ∃ t, lab.assembly.Indexed lab.run.bodies[k].body t :=
  h.indexed _ (List.mem_map_of_mem (Array.getElem_mem_toList hk))

theorem holdForcedPose_eq (fp : ForcedPose) :
    lab.holdForcedPose fp =
      match lab.heldRoot? fp.item with
      | none => lab
      | some (b, r) => lab.withAssembly (lab.assembly.holdRoot b r fp.pose) := by
  unfold holdForcedPose heldRoot?
  cases lab.run.bodyOf? fp.item with
  | none => rfl
  | some k =>
    dsimp only
    cases (lab.assembly.body (lab.run.bodies[k]!).body).root with
    | none => rfl
    | some r =>
      dsimp only
      cases lab.assembly.hasParentBody (lab.assembly.link r) <;> rfl

theorem heldRoot?_spec {item : Nat} {b : BodyId} {r : LinkId} (h : lab.heldRoot? item = some (b, r)) :
    ∃ k, ∃ hk : k < lab.run.bodies.size, lab.run.bodies[k].item = item ∧ lab.run.bodies[k].body = b ∧
      (lab.assembly.body b).root = some r ∧ lab.assembly.hasParentBody (lab.assembly.link r) = false := by
  unfold heldRoot? at h
  cases hk : lab.run.bodyOf? item with
  | none => simp [hk] at h
  | some k =>
    obtain ⟨hlt, hitem, -⟩ := Array.findIdx?_eq_some_iff_getElem.1 hk
    rw [hk] at h
    dsimp only at h
    have hget : lab.run.bodies[k]! = lab.run.bodies[k] := getElem!_pos lab.run.bodies k hlt
    rw [hget] at h
    cases hr : (lab.assembly.body lab.run.bodies[k].body).root with
    | none => simp [hr] at h
    | some r' =>
      rw [hr] at h
      dsimp only at h
      cases hm : lab.assembly.hasParentBody (lab.assembly.link r') with
      | true => simp [hm] at h
      | false =>
        simp only [hm, Bool.false_eq_true, if_false, Option.some.injEq, Prod.mk.injEq] at h
        obtain ⟨rfl, rfl⟩ := h
        exact ⟨k, hlt, by simpa using hitem, rfl, hr, hm⟩

variable {lab}

theorem heldRoot?_body_ne (hrun : lab.IndexedRun) {i j : Nat} (hij : i ≠ j) {b c : BodyId} {r r' : LinkId}
    (hi : lab.heldRoot? i = some (b, r)) (hj : lab.heldRoot? j = some (c, r')) : b ≠ c := by
  obtain ⟨k, hk, hki, rfl, -⟩ := lab.heldRoot?_spec hi
  obtain ⟨k', hk', hkj, rfl, -⟩ := lab.heldRoot?_spec hj
  intro hbc
  have hkk : k = k' := by
    have hl : k < (lab.run.bodies.toList.map SimBody.body).length := by simpa using hk
    have hl' : k' < (lab.run.bodies.toList.map SimBody.body).length := by simpa using hk'
    have hsame : (lab.run.bodies.toList.map SimBody.body)[k] = (lab.run.bodies.toList.map SimBody.body)[k'] := by
      simpa using hbc
    exact hrun.nodup.getElem_inj_iff.1 hsame
  subst hkk
  exact hij (hki.symm.trans hkj)

theorem heldRoot?_congr {x y : Lab τ σ} (hr : x.run.bodies = y.run.bodies) (hb : x.assembly.bodies = y.assembly.bodies)
    (hl : ∀ l, (x.assembly.link l).withoutMotion = (y.assembly.link l).withoutMotion) (item : Nat) :
    x.heldRoot? item = y.heldRoot? item := by
  simp only [heldRoot?, Run.bodyOf?, Assembly.body, hr, hb, Assembly.hasParentBody_of_withoutMotion hl]

theorem IndexedRun.congr {x y : Lab τ σ} (h : y.IndexedRun)
    (hr : x.run.bodies.toList.map SimBody.body = y.run.bodies.toList.map SimBody.body)
    (hb : x.assembly.bodies = y.assembly.bodies)
    (hl : ∀ l, (x.assembly.link l).withoutMotion = (y.assembly.link l).withoutMotion) : x.IndexedRun where
  nodup := hr ▸ h.nodup
  indexed b hb' := by
    obtain ⟨t, ht⟩ := h.indexed b (hr ▸ hb')
    exact ⟨t, ht.congr hb hl⟩

theorem holdForcedPose_keeps (x : Lab τ σ) (fp : ForcedPose) :
    (x.holdForcedPose fp).run = x.run ∧ (x.holdForcedPose fp).assembly.bodies = x.assembly.bodies ∧
      ∀ l, ((x.holdForcedPose fp).assembly.link l).withoutMotion = (x.assembly.link l).withoutMotion ∧
        ((x.holdForcedPose fp).assembly.link l).wrench = (x.assembly.link l).wrench := by
  rw [holdForcedPose_eq]
  split
  · exact ⟨rfl, rfl, fun _ => ⟨rfl, rfl⟩⟩
  · exact ⟨rfl, Assembly.holdRoot_keeps _ _ _ _⟩

theorem foldl_holdForcedPose_keeps (fps : List ForcedPose) (x : Lab τ σ) :
    (fps.foldl holdForcedPose x).run = x.run ∧ (fps.foldl holdForcedPose x).assembly.bodies = x.assembly.bodies ∧
      ∀ l, ((fps.foldl holdForcedPose x).assembly.link l).withoutMotion = (x.assembly.link l).withoutMotion ∧
        ((fps.foldl holdForcedPose x).assembly.link l).wrench = (x.assembly.link l).wrench := by
  have h := foldl_keeps (fun y : Lab τ σ => (y.run, y.assembly.bodies, fun l => (y.assembly.link l).withoutMotion,
      fun l => (y.assembly.link l).wrench)) holdForcedPose (fun y fp => by
        obtain ⟨hr, hb, hl⟩ := holdForcedPose_keeps y fp
        simp only [hr, hb, Prod.mk.injEq, true_and]
        exact ⟨funext fun l => (hl l).1, funext fun l => (hl l).2⟩) fps x
  simp only [Prod.mk.injEq] at h
  exact ⟨h.1, h.2.1, fun l => ⟨congrFun h.2.2.1 l, congrFun h.2.2.2 l⟩⟩

theorem wrench_holdForcedPoses (x : Lab τ σ) (p : Perturbations) (l : LinkId) :
    ((x.holdForcedPoses p).assembly.link l).wrench = (x.assembly.link l).wrench := by
  unfold holdForcedPoses
  rw [← Array.foldl_toList]
  exact ((foldl_holdForcedPose_keeps _ x).2.2 l).2

theorem foldl_holdForcedPose_others (hrun : lab.IndexedRun) {i : Nat} {b : BodyId} {r : LinkId}
    (hheld : lab.heldRoot? i = some (b, r)) :
    ∀ (fps : List ForcedPose) (x : Lab τ σ), (∀ fp ∈ fps, fp.item ≠ i) → x.run = lab.run →
      x.assembly.bodies = lab.assembly.bodies →
      (∀ l, (x.assembly.link l).withoutMotion = (lab.assembly.link l).withoutMotion) →
      ∀ l ∈ (lab.assembly.body b).links, (fps.foldl holdForcedPose x).assembly.link l = x.assembly.link l
  | [], _, _, _, _, _ => fun _ _ => rfl
  | fp :: fps, x, hne, hr, hb, hl => by
    intro l hlb
    obtain ⟨hr', hb', hl'⟩ := holdForcedPose_keeps x fp
    rw [List.foldl_cons, foldl_holdForcedPose_others hrun hheld fps _ (fun f hf => hne f (List.mem_cons_of_mem _ hf))
      (hr'.trans hr) (hb'.trans hb) (fun l => (hl' l).1.trans (hl l)) l hlb]
    -- the hold of `fp` moves only the links of another body
    rw [holdForcedPose_eq]
    cases hc : x.heldRoot? fp.item with
    | none => rfl
    | some cr =>
      obtain ⟨c, r'⟩ := cr
      have hc' : lab.heldRoot? fp.item = some (c, r') :=
        (heldRoot?_congr (congrArg Run.bodies hr) hb hl fp.item).symm.trans hc
      have hcb : c ≠ b := heldRoot?_body_ne hrun (hne fp (List.mem_cons_self ..)) hc' hheld
      obtain ⟨k, hk, -, hkc, hroot, -⟩ := lab.heldRoot?_spec hc'
      obtain ⟨kb, hkb, -, hkbb, -, -⟩ := lab.heldRoot?_spec hheld
      obtain ⟨tc, htc⟩ := hrun.getElem hk
      obtain ⟨tb, htb⟩ := hrun.getElem hkb
      rw [hkc] at htc
      rw [hkbb] at htb
      have hbody : x.assembly.body c = lab.assembly.body c := by simp only [Assembly.body, hb]
      have hrc : r' ∈ (x.assembly.body c).links := hbody ▸ htc.root_mem hroot
      have hnot : l ∉ (x.assembly.body c).links := hbody ▸ htb.not_mem_of_ne htc (Ne.symm hcb) hlb
      exact (Assembly.movesOnly_holdRoot hrc fp.pose).frame l hnot

theorem holdForcedPoses_holds (hrun : lab.IndexedRun) {p : Perturbations}
    (hnd : (p.forced.toList.map ForcedPose.item).Nodup) {fp : ForcedPose} (hfp : fp ∈ p.forced)
    {b : BodyId} {r : LinkId} (hheld : lab.heldRoot? fp.item = some (b, r)) :
    (lab.holdForcedPoses p).assembly.Holds b r fp.pose (lab.assembly.link r) := by
  obtain ⟨pre, post, hsplit⟩ := List.append_of_mem (Array.mem_toList_iff.2 hfp)
  -- no other entry has the item
  have hitems : (pre.map ForcedPose.item ++ fp.item :: post.map ForcedPose.item).Nodup := by
    simpa [hsplit] using hnd
  have hpre : ∀ f ∈ pre, f.item ≠ fp.item := fun f hf he =>
    (List.nodup_append.1 hitems).2.2 _ (List.mem_map_of_mem hf) _ (List.mem_cons_self ..) he
  have hpost : ∀ f ∈ post, f.item ≠ fp.item := fun f hf he =>
    (List.nodup_cons.1 (List.nodup_append.1 hitems).2.1).1 (he ▸ List.mem_map_of_mem hf)
  obtain ⟨k, hk, -, hkb, hroot, hm⟩ := lab.heldRoot?_spec hheld
  obtain ⟨t, ht⟩ := hrun.getElem hk
  rw [hkb] at ht
  have hr : r ∈ (lab.assembly.body b).links := ht.root_mem hroot
  unfold holdForcedPoses
  rw [← Array.foldl_toList, hsplit, List.foldl_append, List.foldl_cons]
  -- the holds before leave the body as it was
  obtain ⟨hxr, hxb, hxl⟩ := foldl_holdForcedPose_keeps pre lab
  set x := pre.foldl holdForcedPose lab with hx
  have hxw : ∀ l, (x.assembly.link l).withoutMotion = (lab.assembly.link l).withoutMotion := fun l => (hxl l).1
  have hxlinks : ∀ l ∈ (lab.assembly.body b).links, x.assembly.link l = lab.assembly.link l :=
    foldl_holdForcedPose_others hrun hheld pre lab hpre rfl rfl (fun _ => rfl)
  have hbody : x.assembly.body b = lab.assembly.body b := by simp only [Assembly.body, hxb]
  -- the hold of `fp`
  have hxheld : x.heldRoot? fp.item = some (b, r) :=
    (heldRoot?_congr (congrArg Run.bodies hxr) hxb hxw fp.item).trans hheld
  have hxm : x.assembly.hasParentBody (x.assembly.link r) = false := by
    rw [Assembly.hasParentBody_of_withoutMotion hxw, hm]
  obtain ⟨hpose, hv, hw, hkin⟩ :=
    Assembly.holdRoot_spec (ht.congr hxb hxw) (hbody ▸ hroot) hxm fp.pose
  set y := x.holdForcedPose fp with hy
  have hyeq : y = x.withAssembly (x.assembly.holdRoot b r fp.pose) := by rw [hy, holdForcedPose_eq, hxheld]
  obtain ⟨hyr, hyb, hyl⟩ := holdForcedPose_keeps x fp
  -- the holds after leave the body as `fp`'s hold left it
  have hzlinks : ∀ l ∈ (lab.assembly.body b).links, (post.foldl holdForcedPose y).assembly.link l = y.assembly.link l :=
    foldl_holdForcedPose_others hrun hheld post y hpost (hyr.trans hxr) (hyb.trans hxb)
      (fun l => (hyl l).1.trans (hxw l))
  have hyat : y.assembly = x.assembly.holdRoot b r fp.pose := by rw [hyeq]; rfl
  unfold Assembly.Holds
  rw [hzlinks r hr, hyat, ← hxlinks r hr]
  refine ⟨hpose, hv, hw, ?_⟩
  -- the body stays kinematic: its links, and no mount link, are kept
  obtain ⟨hzr, hzb, hzl⟩ := foldl_holdForcedPose_keeps post y
  have hyi : (x.assembly.holdRoot b r fp.pose).Indexed b t :=
    ht.congr ((Assembly.holdRoot_keeps _ _ _ _).1.trans hxb)
      (fun l => ((Assembly.holdRoot_keeps _ _ _ _).2 l).1.trans (hxw l))
  refine hkin.of_frame hyi (by rw [hzb, hyat]) (fun l => by rw [(hzl l).1, hyat]) (fun l hl => ?_)
  rcases hl with hl | hl
  · rw [hzlinks l (by simpa [Assembly.body, (Assembly.holdRoot_keeps _ _ _ _).1, hxb] using hl), hyat]
  · rw [Assembly.parentBodyLink?_of_unmounted (a := x.assembly.holdRoot b r fp.pose) (by
      rw [show (x.assembly.holdRoot b r fp.pose).body b = lab.assembly.body b by
        simp [Assembly.body, (Assembly.holdRoot_keeps _ _ _ _).1, hxb]]
      exact hroot) (by
      rw [Assembly.hasParentBody_of_withoutMotion (fun l => ((Assembly.holdRoot_keeps _ _ _ _).2 l).1), hxm])] at hl
    cases hl

end Lab

end Sim

end Multibody
