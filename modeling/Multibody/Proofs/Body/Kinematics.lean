import Multibody.Proofs.Body.Tree

/-!
# Forward kinematics across mounted bodies

`Assembly.forwardKinematics` puts each link at its parent's transform times
its offset times its joint transform.  On an indexed body one pass leaves
the body `Kinematic` (`forwardKinematics_kinematic`); a pass moves only its
own body (`link_forwardKinematics_of_not_mem`), so a body stays kinematic
while no later pass re-poses its mount
(`foldl_forwardKinematics_kinematic`, `updateKinematics_kinematic`).
-/

namespace Multibody

/-- A link with its motion set aside (pose, joint state, velocities and
external wrench): the link as built, with its place in the tree, its joint
and its mass properties. -/
def Link.withoutMotion (l : Link) : Link :=
  { l with pose := Mat4.ident, joint := {}, v := Vec3.zero, w := Vec3.zero,
           extForce := Vec3.zero, extTorque := Vec3.zero }

theorem Link.view_eq_of_withoutMotion {β : Type} (g : Link → β) (hg : ∀ l, g l.withoutMotion = g l)
    {l₁ l₂ : Link} (h : l₁.withoutMotion = l₂.withoutMotion) : g l₁ = g l₂ := by
  rw [← hg l₁, h, hg l₂]

namespace Assembly

variable {a x y : Assembly} {b c : BodyId} {l : LinkId} {t : LinkTree}

/-- Link `l` sits where forward kinematics puts it: it has a parent, and its
world transform is the parent's times its offset times its joint transform. -/
def Posed (a : Assembly) (l : LinkId) : Prop :=
  ∃ p, (a.link l).parent = some p ∧
    (a.link l).pose = ((a.link p).pose.mul (a.link l).offset).mul (a.link l).jointTransform

/-- The root of body `b` when it hangs from no other body: forward kinematics
leaves it where it is. -/
def UnmountedRoot (a : Assembly) (b : BodyId) (l : LinkId) : Prop :=
  (a.body b).root = some l ∧ a.hasParentBody (a.link l) = false

/-- Every link of body `b` but an unmounted root is posed. -/
def Kinematic (a : Assembly) (b : BodyId) : Prop :=
  ∀ l ∈ (a.body b).links, ¬ a.UnmountedRoot b l → a.Posed l

theorem root_of_rootOf {r : LinkId} (h : a.rootOf b = .ok r) : (a.body b).root = some r := by
  unfold rootOf at h
  split at h
  · cases h
    assumption
  · cases h

theorem Posed.transfer (h : x.Posed l) (hl : y.link l = x.link l)
    (hp : ∀ q, (x.link l).parent = some q → y.link q = x.link q) : y.Posed l := by
  obtain ⟨q, hq, hpose⟩ := h
  refine ⟨q, by rw [hl]; exact hq, ?_⟩
  rw [hl, hp q hq]
  exact hpose

/-! ## Links as built -/

theorem hasParentBody_of_withoutMotion (h : ∀ l, (y.link l).withoutMotion = (x.link l).withoutMotion)
    (l : LinkId) : y.hasParentBody (y.link l) = x.hasParentBody (x.link l) := by
  have hparent : (y.link l).parent = (x.link l).parent := Link.view_eq_of_withoutMotion Link.parent (fun _ => rfl) (h l)
  have hbody : ∀ l, (y.link l).body = (x.link l).body := fun l => Link.view_eq_of_withoutMotion Link.body (fun _ => rfl) (h l)
  unfold hasParentBody
  rw [hparent]
  cases (x.link l).parent with
  | none => rfl
  | some p => simp only [hbody p, hbody l]

theorem unmountedRoot_of_withoutMotion (hb : y.bodies = x.bodies)
    (h : ∀ l, (y.link l).withoutMotion = (x.link l).withoutMotion) :
    y.UnmountedRoot b l ↔ x.UnmountedRoot b l := by
  have hbody : y.body b = x.body b := by simp only [body, hb]
  unfold UnmountedRoot
  rw [hbody, hasParentBody_of_withoutMotion h]

theorem Indexed.congr (hb : y.bodies = x.bodies) (hl : ∀ l, (y.link l).withoutMotion = (x.link l).withoutMotion)
    (h : x.Indexed b t) : y.Indexed b t := by
  have hbody : y.body b = x.body b := by simp only [Assembly.body, hb]
  have hindex : ∀ l, (y.link l).index = (x.link l).index :=
    fun l => Link.view_eq_of_withoutMotion Link.index (fun _ => rfl) (hl l)
  have hown : ∀ l, (y.link l).body = (x.link l).body :=
    fun l => Link.view_eq_of_withoutMotion Link.body (fun _ => rfl) (hl l)
  have hparent : ∀ l, (y.link l).parent = (x.link l).parent :=
    fun l => Link.view_eq_of_withoutMotion Link.parent (fun _ => rfl) (hl l)
  have hjt : ∀ l, (y.link l).jointType = (x.link l).jointType :=
    fun l => Link.view_eq_of_withoutMotion Link.jointType (fun _ => rfl) (hl l)
  have hjid : ∀ l, (y.link l).jointId = (x.link l).jointId :=
    fun l => Link.view_eq_of_withoutMotion Link.jointId (fun _ => rfl) (hl l)
  refine
    { root := by rw [hbody]; exact h.root
      spans := h.spans.congr (fun l => Link.view_eq_of_withoutMotion Link.children (fun _ => rfl) (hl l)) hparent
      links := by rw [hbody]; exact h.links
      nodup := by rw [hbody]; exact h.nodup
      index := fun i hi => by
        simp only [hbody, hindex] at hi ⊢
        exact h.index i hi
      body := fun l hl' => by
        rw [hbody] at hl'
        rw [hown]
        exact h.body l hl'
      parent := fun i hi hpos => by
        simp only [hbody, hparent, hindex] at hi ⊢
        exact h.parent i hi hpos
      joints := by
        rw [hbody]
        simp only [hjt]
        exact h.joints
      jointId := fun j hj => by
        simp only [hbody, hjid] at hj ⊢
        exact h.jointId j hj
      unactuated := fun l hl' hna => by
        rw [hbody] at hl'
        rw [hjt] at hna
        rw [hjid]
        exact h.unactuated l hl' hna
      linkAt := linkAt?_eq_none_iff
      jointAt := jointAt?_eq_none_iff }

theorem Indexed.root_mem {r : LinkId} (h : a.Indexed b t) (hr : (a.body b).root = some r) :
    r ∈ (a.body b).links := by
  rw [h.root] at hr
  cases hr
  rw [← Array.mem_toList_iff, h.links]
  cases t
  exact List.mem_cons_self ..

theorem Indexed.joint_mem (h : a.Indexed b t) {l : LinkId} (hl : l ∈ (a.body b).joints) :
    l ∈ (a.body b).links := by
  rw [← Array.mem_toList_iff, h.joints] at hl
  rw [← Array.mem_toList_iff, h.links]
  exact List.mem_of_mem_filter hl

theorem Indexed.joints_nodup (h : a.Indexed b t) : (a.body b).joints.toList.Nodup := by
  rw [h.joints]
  exact (h.links ▸ h.nodup).filter _

/-! ## What indexing tells forward kinematics -/

section Indexed

variable (h : a.Indexed b t)
include h

theorem Indexed.lt_size {i : Nat} (hi : i < (a.body b).links.size) : (a.body b).links[i].idx < a.links.size := by
  by_contra hr
  have hdef : a.link (a.body b).links[i] = default := by
    simp [link, Array.getD_eq_getD_getElem?, Nat.le_of_not_lt hr]
  have hown := h.body _ (Array.getElem_mem hi)
  rw [hdef] at hown
  cases hown

theorem Indexed.lt_size_of_mem (hl : l ∈ (a.body b).links) : l.idx < a.links.size := by
  obtain ⟨i, hi, rfl⟩ := Array.mem_iff_getElem.1 hl
  exact h.lt_size hi

theorem Indexed.getElem_zero (hi : 0 < (a.body b).links.size) : (a.body b).root = some (a.body b).links[0] := by
  have hsize : t.preorder.length = (a.body b).links.size := by rw [← h.links, Array.length_toList]
  have hget : (a.body b).links[0] = t.preorder[0] := by
    simp only [← Array.getElem_toList, h.links]
  rw [h.root, hget, LinkTree.head_preorder]

theorem Indexed.parent_getElem {i : Nat} (hi : i < (a.body b).links.size) (hpos : 0 < i) :
    ∃ j, ∃ hj : j < i, (a.link (a.body b).links[i]).parent = some (a.body b).links[j] := by
  have hlen : i < t.preorder.length := by
    rw [← h.links, Array.length_toList]
    exact hi
  obtain ⟨j, hj, hpj⟩ := h.spans.parent_before i hlen hpos
  have hsize : t.preorder.length = (a.body b).links.size := by rw [← h.links, Array.length_toList]
  have hget : ∀ k (hk : k < (a.body b).links.size), (a.body b).links[k] = t.preorder[k] := by
    intro k hk
    simp only [← Array.getElem_toList, h.links]
  refine ⟨j, hj, ?_⟩
  rw [hget i hi, hpj, hget j (by omega), List.getElem?_eq_getElem]

theorem Indexed.getElem_injective {i j : Nat} (hi : i < (a.body b).links.size) (hj : j < (a.body b).links.size)
    (hij : (a.body b).links[i] = (a.body b).links[j]) : i = j := by
  have hnd := h.nodup
  simp only [← Array.getElem_toList] at hij
  exact (hnd.getElem_inj_iff).1 hij

theorem Indexed.mount_not_mem {r p : LinkId} (hr : (a.body b).root = some r) (hm : a.hasParentBody (a.link r) = true)
    (hp : (a.link r).parent = some p) : p ∉ (a.body b).links := by
  intro hmem
  have hrmem : r ∈ (a.body b).links := by
    have := h.links
    rw [h.root] at hr
    cases hr
    rw [← Array.mem_toList_iff, this]
    cases t
    simp
  have hsame : (a.link p).body = (a.link r).body := by rw [h.body p hmem, h.body r hrmem]
  unfold hasParentBody at hm
  simp [hp, hsame] at hm

theorem Indexed.parent_of_posing {i : Nat} (hi : i < (a.body b).links.size)
    (hnr : ¬ a.UnmountedRoot b (a.body b).links[i]) :
    ∃ p, (a.link (a.body b).links[i]).parent = some p ∧
      ((∃ j, ∃ hj : j < i, p = (a.body b).links[j]) ∨ (i = 0 ∧ p ∉ (a.body b).links)) := by
  rcases Nat.eq_zero_or_pos i with rfl | hpos
  · -- the root: it needs posing only when it hangs from another body
    have hroot := h.getElem_zero hi
    have hm : a.hasParentBody (a.link (a.body b).links[0]) = true := by
      by_contra hm
      exact hnr ⟨hroot, by simpa using hm⟩
    obtain ⟨p, hp⟩ : ∃ p, (a.link (a.body b).links[0]).parent = some p := by
      unfold hasParentBody at hm
      split at hm
      · exact ⟨_, ‹_›⟩
      · cases hm
    exact ⟨p, hp, .inr ⟨rfl, h.mount_not_mem hroot hm hp⟩⟩
  · obtain ⟨j, hj, hpj⟩ := h.parent_getElem hi hpos
    exact ⟨_, hpj, .inl ⟨j, hj, rfl⟩⟩

end Indexed

/-! ## One visit -/

/-- One visit of forward kinematics to link `l` of the body `bd`. -/
def placeLink (bd : Body) (a : Assembly) (l : LinkId) : Assembly :=
  let lk := a.link l
  if bd.root == some l && !a.hasParentBody lk then a
  else match lk.parent with
    | some p => a.setLink l { lk with pose := ((a.link p).pose.mul lk.offset).mul lk.jointTransform }
    | none => a

theorem forwardKinematics_eq_foldl (a : Assembly) (b : BodyId) :
    a.forwardKinematics b = (a.body b).links.foldl (placeLink (a.body b)) a := rfl

section Visit

variable (bd : Body) (a : Assembly)

theorem link_placeLink_of_ne {l x : LinkId} (h : l ≠ x) : (placeLink bd a l).link x = a.link x := by
  unfold placeLink
  dsimp only
  split
  · rfl
  · split
    · rw [link_setLink, if_neg (fun e => h e.1)]
    · rfl

@[simp] theorem bodies_placeLink (l : LinkId) : (placeLink bd a l).bodies = a.bodies := by
  unfold placeLink
  dsimp only
  split
  · rfl
  · split <;> rfl

@[simp] theorem size_placeLink (l : LinkId) : (placeLink bd a l).links.size = a.links.size := by
  unfold placeLink
  dsimp only
  split
  · rfl
  · split
    · exact size_setLink a _ _
    · rfl

theorem withoutMotion_placeLink (l x : LinkId) :
    ((placeLink bd a l).link x).withoutMotion = (a.link x).withoutMotion := by
  unfold placeLink
  dsimp only
  split
  · rfl
  · split
    · refine link_setLink_keeps a Link.withoutMotion ?_ x
      rfl
    · rfl

theorem placeLink_posed {l p : LinkId} (hr : l.idx < a.links.size)
    (hskip : ¬ (bd.root = some l ∧ a.hasParentBody (a.link l) = false))
    (hp : (a.link l).parent = some p) (hpl : p ≠ l) : (placeLink bd a l).Posed l := by
  have hcond : (bd.root == some l && !a.hasParentBody (a.link l)) = false := by
    cases h₁ : a.hasParentBody (a.link l)
    · have : bd.root ≠ some l := fun e => hskip ⟨e, h₁⟩
      simpa using this
    · simp
  have hlink : (placeLink bd a l).link l =
      { a.link l with pose := ((a.link p).pose.mul (a.link l).offset).mul (a.link l).jointTransform } := by
    unfold placeLink
    simp only [hcond, Bool.false_eq_true, if_false, hp]
    rw [link_setLink, if_pos ⟨rfl, hr⟩]
  refine ⟨p, by rw [hlink]; exact hp, ?_⟩
  rw [hlink, link_placeLink_of_ne bd a (Ne.symm hpl)]
  rfl

end Visit

theorem link_forwardKinematics_of_not_mem (a : Assembly) (b : BodyId) {l : LinkId}
    (h : l ∉ (a.body b).links) : (a.forwardKinematics b).link l = a.link l := by
  rw [forwardKinematics_eq_foldl]
  refine Array.foldl_induction (fun _ (x : Assembly) => x.link l = a.link l) rfl ?_
  intro i x hx
  rw [link_placeLink_of_ne _ _ (fun e => h (by rw [← e]; exact Array.getElem_mem i.2)), hx]

@[simp] theorem bodies_forwardKinematics (a : Assembly) (b : BodyId) :
    (a.forwardKinematics b).bodies = a.bodies := by
  rw [forwardKinematics_eq_foldl]
  exact Array.foldl_induction (fun _ (x : Assembly) => x.bodies = a.bodies) rfl
    (fun _ x hx => by rw [bodies_placeLink, hx])

theorem withoutMotion_forwardKinematics (a : Assembly) (b : BodyId) (l : LinkId) :
    ((a.forwardKinematics b).link l).withoutMotion = (a.link l).withoutMotion :=
  forwardKinematics_keeps a Link.withoutMotion (fun _ _ => rfl) b l

/-! ## One body -/

/-- Forward kinematics of an indexed body poses every link but an unmounted
root against the final pose of its parent: parents come first in the order
of the pass, and once posed a link and its parent are never visited again. -/
theorem forwardKinematics_kinematic (h : a.Indexed b t) : (a.forwardKinematics b).Kinematic b := by
  let L := (a.body b).links
  have hLs : L.size = (a.body b).links.size := rfl
  -- after the first `k` visits, links keep their build and the first `k` are posed
  let motive (k : Nat) (x : Assembly) : Prop :=
    x.links.size = a.links.size ∧ (∀ m, (x.link m).withoutMotion = (a.link m).withoutMotion) ∧
      ∀ i (hi : i < L.size), i < k → ¬ a.UnmountedRoot b L[i] → x.Posed L[i]
  have hdone : motive L.size (L.foldl (placeLink (a.body b)) a) := by
    refine Array.foldl_induction motive ⟨rfl, fun _ => rfl, fun i _ hi => absurd hi (Nat.not_lt_zero i)⟩ ?_
    rintro ⟨k, hk⟩ x ⟨hs, hw, hposed⟩
    refine ⟨by rw [size_placeLink, hs], fun m => (withoutMotion_placeLink _ x _ m).trans (hw m),
      fun i hi hik hnr => ?_⟩
    change i < k + 1 at hik
    obtain ⟨p, hp, hwhere⟩ := h.parent_of_posing hi hnr
    have hpx : (x.link L[i]).parent = some p :=
      (Link.view_eq_of_withoutMotion Link.parent (fun _ => rfl) (hw L[i])).trans hp
    rcases Nat.lt_succ_iff_lt_or_eq.1 hik with hik | rfl
    · -- an earlier link: the visit moves neither it nor its parent
      have hne : L[k] ≠ L[i] := fun e => by have := h.getElem_injective hk hi e; omega
      refine (hposed i hi hik hnr).transfer (link_placeLink_of_ne _ x hne) (fun q hq => ?_)
      rw [hpx] at hq
      cases hq
      refine link_placeLink_of_ne _ x (fun e => ?_)
      rcases hwhere with ⟨j, hj, rfl⟩ | ⟨rfl, hout⟩
      · have := h.getElem_injective hk (by omega) e
        omega
      · exact hout (by rw [← e]; exact Array.getElem_mem hk)
    · -- the visited link: posed against its parent, which comes before it
      have hpl : p ≠ L[i] := by
        rcases hwhere with ⟨j, hj, rfl⟩ | ⟨_, hout⟩
        · exact fun e => by have := h.getElem_injective (by omega) hi e; omega
        · exact fun e => hout (by rw [e]; exact Array.getElem_mem hi)
      have hskip : ¬ ((a.body b).root = some L[i] ∧ x.hasParentBody (x.link L[i]) = false) := by
        rw [hasParentBody_of_withoutMotion hw]
        exact hnr
      have hr : L[i].idx < x.links.size := by
        rw [hs]
        exact h.lt_size hi
      exact placeLink_posed _ x hr hskip hpx hpl
  obtain ⟨-, hw, hposed⟩ := hdone
  intro l hl hnr
  rw [← forwardKinematics_eq_foldl] at hw hposed
  have hbody : (a.forwardKinematics b).body b = a.body b := by simp only [body, bodies_forwardKinematics]
  rw [hbody] at hl
  rw [unmountedRoot_of_withoutMotion (bodies_forwardKinematics a b) hw] at hnr
  obtain ⟨i, hi, rfl⟩ := Array.mem_iff_getElem.1 hl
  exact hposed i hi hi hnr

/-- The poses of a kinematic body are fixed by the pose of its root and the
transforms of its joints: two states with the same links as built, both
kinematic on the body, that agree on those agree on every pose of the body. -/
theorem Kinematic.pose_eq (hx : x.Kinematic b) (hy : y.Kinematic b) (h : x.Indexed b t)
    (hb : y.bodies = x.bodies) (hl : ∀ l, (y.link l).withoutMotion = (x.link l).withoutMotion)
    (hroot : (y.link t.root).pose = (x.link t.root).pose)
    (hjt : ∀ l ∈ (x.body b).links, (y.link l).jointTransform = (x.link l).jointTransform) :
    ∀ l ∈ (x.body b).links, (y.link l).pose = (x.link l).pose := by
  let L := (x.body b).links
  have hbody : y.body b = x.body b := by simp only [body, hb]
  -- by strong induction along the body's order: a link hangs from one before it
  suffices hL : ∀ i (hi : i < L.size), (y.link L[i]).pose = (x.link L[i]).pose by
    intro l hl
    obtain ⟨i, hi, rfl⟩ := Array.mem_iff_getElem.1 hl
    exact hL i hi
  intro i
  induction i using Nat.strong_induction_on with
  | _ i ih =>
    intro hi
    have h0 : 0 < (x.body b).links.size := Nat.zero_lt_of_lt hi
    have hroot0 : (x.body b).root = some L[0] := h.getElem_zero h0
    rcases Nat.eq_zero_or_pos i with rfl | hpos
    · rw [h.root] at hroot0
      rw [← Option.some.inj hroot0]
      exact hroot
    · have hnr : ¬ x.UnmountedRoot b L[i] := fun hr => by
        have := h.getElem_injective h0 hi (Option.some.inj (hroot0.symm.trans hr.1))
        omega
      have hnr' : ¬ y.UnmountedRoot b L[i] := by
        rwa [unmountedRoot_of_withoutMotion hb hl]
      obtain ⟨j, hj, hpj⟩ := h.parent_getElem hi hpos
      obtain ⟨p, hp, hpx⟩ := hx L[i] (Array.getElem_mem hi) hnr
      obtain ⟨q, hq, hqy⟩ := hy L[i] (by rw [hbody]; exact Array.getElem_mem hi) hnr'
      have hpar : (y.link L[i]).parent = (x.link L[i]).parent :=
        Link.view_eq_of_withoutMotion Link.parent (fun _ => rfl) (hl L[i])
      have hoff : (y.link L[i]).offset = (x.link L[i]).offset :=
        Link.view_eq_of_withoutMotion Link.offset (fun _ => rfl) (hl L[i])
      -- both states pose the link against the same parent, posed alike before it
      rw [hpj] at hp
      rw [hpar, hpj] at hq
      cases hp
      cases hq
      rw [hqy, hpx, ih j hj (by omega), hoff, hjt L[i] (Array.getElem_mem hi)]

/-! ## Passes over several bodies -/

theorem foldl_forwardKinematics_keeps (bs : List BodyId) (a : Assembly) :
    (bs.foldl forwardKinematics a).bodies = a.bodies ∧
      ∀ l, ((bs.foldl forwardKinematics a).link l).withoutMotion = (a.link l).withoutMotion := by
  have h := Sim.foldl_keeps (fun x : Assembly => (x.bodies, fun l => (x.link l).withoutMotion)) forwardKinematics
    (fun x c => Prod.ext (bodies_forwardKinematics x c) (funext (withoutMotion_forwardKinematics x c))) bs a
  exact ⟨congrArg Prod.fst h, fun l => congrFun (congrArg Prod.snd h) l⟩

theorem parentBodyLink?_of_withoutMotion (hb : y.bodies = x.bodies)
    (h : ∀ l, (y.link l).withoutMotion = (x.link l).withoutMotion) (b : BodyId) :
    y.parentBodyLink? b = x.parentBodyLink? b := by
  have hbody : y.body b = x.body b := by simp only [body, hb]
  unfold parentBodyLink?
  rw [hbody]
  cases (x.body b).root with
  | none => rfl
  | some r =>
    simp only [hasParentBody_of_withoutMotion h, Link.view_eq_of_withoutMotion Link.parent (fun _ => rfl) (h r)]

theorem Indexed.not_mem_of_ne {t' : LinkTree} (h : a.Indexed b t) (h' : a.Indexed c t') (hbc : b ≠ c)
    (hl : l ∈ (a.body b).links) : l ∉ (a.body c).links := fun hl' =>
  hbc (Option.some.inj ((h.body l hl).symm.trans (h'.body l hl')))

theorem Indexed.parent_mem (h : a.Indexed b t) (hl : l ∈ (a.body b).links) (hnr : ¬ a.UnmountedRoot b l)
    {q : LinkId} (hq : (a.link l).parent = some q) : q ∈ (a.body b).links ∨ a.parentBodyLink? b = some q := by
  obtain ⟨i, hi, rfl⟩ := Array.mem_iff_getElem.1 hl
  obtain ⟨p, hp, hwhere⟩ := h.parent_of_posing hi hnr
  rw [hp] at hq
  cases hq
  rcases hwhere with ⟨j, hj, rfl⟩ | ⟨rfl, -⟩
  · exact .inl (Array.getElem_mem _)
  · -- the root needs posing only when it hangs from another body
    have hroot := h.getElem_zero hi
    have hm : a.hasParentBody (a.link (a.body b).links[0]) = true := by
      by_contra hm
      exact hnr ⟨hroot, by simpa using hm⟩
    right
    unfold parentBodyLink?
    rw [hroot]
    simp only [hm, if_true, hp]

/-- What a step over body `c` may do: keep the bodies and every link as
built, and move only links of `c`. -/
structure MovesOnly (c : BodyId) (x y : Assembly) : Prop where
  bodies : y.bodies = x.bodies
  built : ∀ l, (y.link l).withoutMotion = (x.link l).withoutMotion
  frame : ∀ l ∉ (x.body c).links, y.link l = x.link l

theorem MovesOnly.refl (c : BodyId) (x : Assembly) : MovesOnly c x x := ⟨rfl, fun _ => rfl, fun _ _ => rfl⟩

theorem MovesOnly.trans {z : Assembly} (h₁ : MovesOnly c x y) (h₂ : MovesOnly c y z) : MovesOnly c x z where
  bodies := h₂.bodies.trans h₁.bodies
  built l := (h₂.built l).trans (h₁.built l)
  frame l hl := by
    have hbody : y.body c = x.body c := by simp only [body, h₁.bodies]
    rw [h₂.frame l (by rw [hbody]; exact hl), h₁.frame l hl]

theorem movesOnly_forwardKinematics (x : Assembly) (c : BodyId) : MovesOnly c x (x.forwardKinematics c) :=
  ⟨bodies_forwardKinematics x c, withoutMotion_forwardKinematics x c,
   fun _ hl => link_forwardKinematics_of_not_mem x c hl⟩

theorem Kinematic.of_frame (hk : x.Kinematic b) (h : x.Indexed b t) (hb : y.bodies = x.bodies)
    (hl : ∀ l, (y.link l).withoutMotion = (x.link l).withoutMotion)
    (hkeep : ∀ l, l ∈ (x.body b).links ∨ x.parentBodyLink? b = some l → y.link l = x.link l) :
    y.Kinematic b := by
  intro l hl' hnr
  have hbody : y.body b = x.body b := by simp only [body, hb]
  rw [hbody] at hl'
  rw [unmountedRoot_of_withoutMotion hb hl] at hnr
  exact (hk l hl' hnr).transfer (hkeep l (.inl hl')) (fun q hq => hkeep q (h.parent_mem hl' hnr hq))

theorem Kinematic.of_movesOnly {t' : LinkTree} (hk : x.Kinematic b) (h : x.Indexed b t)
    (h' : x.Indexed c t') (hbc : b ≠ c) (hmount : ∀ p, x.parentBodyLink? b = some p → p ∉ (x.body c).links)
    (hm : MovesOnly c x y) : y.Kinematic b :=
  hk.of_frame h hm.bodies hm.built fun l hl => hm.frame l (by
    rcases hl with hl | hl
    · exact h.not_mem_of_ne h' hbc hl
    · exact hmount l hl)

theorem Kinematic.foldl_forwardKinematics (hb : a.Indexed b t) :
    ∀ (cs : List BodyId) (y : Assembly), y.Kinematic b → y.bodies = a.bodies →
      (∀ l, (y.link l).withoutMotion = (a.link l).withoutMotion) →
      (∀ c ∈ cs, c ≠ b ∧ ∃ t', a.Indexed c t') →
      (∀ p, a.parentBodyLink? b = some p → ∀ c ∈ cs, p ∉ (a.body c).links) →
      (cs.foldl forwardKinematics y).Kinematic b
  | [], _, hk, _, _, _, _ => hk
  | c :: cs, y, hk, hyb, hyl, hcs, hmount => by
    obtain ⟨hcb, t', hc⟩ := hcs c (List.mem_cons_self ..)
    have hbody : ∀ d, y.body d = a.body d := fun d => by simp only [body, hyb]
    have hk' : (y.forwardKinematics c).Kinematic b :=
      hk.of_movesOnly (hb.congr hyb hyl) (hc.congr hyb hyl) (Ne.symm hcb) (fun p hp => by
        rw [parentBodyLink?_of_withoutMotion hyb hyl] at hp
        rw [hbody]
        exact hmount p hp c (List.mem_cons_self ..)) (movesOnly_forwardKinematics y c)
    exact Kinematic.foldl_forwardKinematics hb cs _ hk' (by rw [bodies_forwardKinematics, hyb])
      (fun l => (withoutMotion_forwardKinematics y c l).trans (hyl l)) (fun d hd => hcs d (List.mem_cons_of_mem _ hd))
      (fun p hp d hd => hmount p hp d (List.mem_cons_of_mem _ hd))

theorem foldl_forwardKinematics_kinematic {pre post : List BodyId} (hnd : (pre ++ b :: post).Nodup)
    (hidx : ∀ c ∈ pre ++ b :: post, ∃ t, a.Indexed c t)
    (hmount : ∀ p, a.parentBodyLink? b = some p → ∀ c ∈ post, p ∉ (a.body c).links) :
    ((pre ++ b :: post).foldl forwardKinematics a).Kinematic b := by
  obtain ⟨t, hb⟩ := hidx b (List.mem_append_right _ (List.mem_cons_self ..))
  obtain ⟨hxb, hxl⟩ := foldl_forwardKinematics_keeps pre a
  rw [List.foldl_append, List.foldl_cons]
  -- the body's own pass poses it, and the passes after it keep it posed
  have hown := forwardKinematics_kinematic (hb.congr hxb hxl)
  have hnotin : b ∉ post := (List.nodup_cons.1 (List.nodup_append.1 hnd).2.1).1
  refine Kinematic.foldl_forwardKinematics hb post _ hown (by rw [bodies_forwardKinematics, hxb])
    (fun l => (withoutMotion_forwardKinematics _ b l).trans (hxl l)) (fun c hc => ⟨fun e => hnotin (e ▸ hc), ?_⟩)
    hmount
  exact hidx c (List.mem_append_right _ (List.mem_cons_of_mem _ hc))

end Assembly

namespace Sim

open Assembly

theorem updateKinematics_keeps (a : Assembly) (clones : Array BodyId) :
    (Lab.updateKinematics a clones).bodies = a.bodies ∧
      ∀ l, ((Lab.updateKinematics a clones).link l).withoutMotion = (a.link l).withoutMotion := by
  unfold Lab.updateKinematics
  rw [← Array.foldl_toList]
  exact foldl_forwardKinematics_keeps _ a

/-- After the setup's passes, every clone is kinematic that is unmounted or
mounted on a link of no mounted clone: the unmounted clones are posed
first, so a clone mounted on one of them sees its final pose. -/
theorem updateKinematics_kinematic {a : Assembly} {clones : Array BodyId} {b : BodyId}
    (hnd : clones.toList.Nodup) (hidx : ∀ c ∈ clones, ∃ t, a.Indexed c t) (hb : b ∈ clones)
    (hmount : ∀ p, a.parentBodyLink? b = some p →
      ∀ c ∈ clones, p ∈ (a.body c).links → a.parentBodyLink? c = none) :
    (Lab.updateKinematics a clones).Kinematic b := by
  let free := clones.toList.filter fun c => (a.parentBodyLink? c).isNone
  let mounted := clones.toList.filter fun c => (a.parentBodyLink? c).isSome
  have horder : Lab.updateKinematics a clones = (free ++ mounted).foldl forwardKinematics a := by
    simp only [Lab.updateKinematics, free, mounted, ← Array.foldl_toList, Array.toList_append, Array.toList_filter]
  -- the two passes visit every clone once
  have hnd' : (free ++ mounted).Nodup := by
    refine List.nodup_append.2 ⟨hnd.filter _, hnd.filter _, fun x hx y hy e => ?_⟩
    subst e
    simp only [free, mounted, List.mem_filter] at hx hy
    cases h : a.parentBodyLink? x <;> simp_all
  have hidx' : ∀ c ∈ free ++ mounted, ∃ t, a.Indexed c t := by
    intro c hc
    rcases List.mem_append.1 hc with hc | hc <;>
      exact hidx c (Array.mem_toList_iff.1 (List.mem_of_mem_filter hc))
  rw [horder]
  cases hp : a.parentBodyLink? b with
  | none =>
    -- an unmounted clone: whatever comes after it, its own pass poses it
    obtain ⟨s, u, hs⟩ := List.append_of_mem (show b ∈ free from List.mem_filter.2
      ⟨Array.mem_toList_iff.2 hb, by simp [hp]⟩)
    rw [hs, List.append_assoc, List.cons_append] at hnd' hidx' ⊢
    exact foldl_forwardKinematics_kinematic hnd' hidx' (fun p h => by simp [hp] at h)
  | some p =>
    -- a mounted clone: only mounted clones come after it, and none holds its parent
    obtain ⟨s, u, hs⟩ := List.append_of_mem (show b ∈ mounted from List.mem_filter.2
      ⟨Array.mem_toList_iff.2 hb, by simp [hp]⟩)
    rw [hs, ← List.append_assoc] at hnd' hidx' ⊢
    refine foldl_forwardKinematics_kinematic hnd' hidx' (fun q hq c hc hmem => ?_)
    have hcm : c ∈ mounted := by
      rw [hs]
      exact List.mem_append_right _ (List.mem_cons_of_mem _ hc)
    have hc' := List.mem_filter.1 hcm
    have hnone := hmount q hq c (Array.mem_toList_iff.1 hc'.1) hmem
    simp [hnone] at hc'

end Sim

end Multibody
