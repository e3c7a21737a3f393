import Mathlib
import Multibody.Dynamics.JointSpace
import Multibody.Proofs.Body.RoundTrip
import Multibody.Proofs.Dynamics.Integration
import Multibody.Proofs.Loops
/-!
# The joint-space step of a body

`Assembly.stepJoints` packs the joints into a state `x = [q…, dq…]`,
integrates the derivative `jointRate` and writes the state back.  The
derivative moves the links, yet depends only on the state and the efforts
(`jointRate_setJointPositions`); it has the state's length
(`size_jointRate`), so the step is each scheme's formula
(`stepJoints_spec`).
-/

namespace Multibody

namespace Dynamics

/-! ## Sizes through the elimination

Every write of the elimination is a checked `Fault.put`, so whatever it
returns has the sizes it started with. -/

theorem foldlM_ok_inv {σ β ε : Type} (P : σ → Prop) (f : σ → β → Except ε σ)
    (hf : ∀ s b s', P s → f s b = .ok s' → P s') :
    ∀ (l : List β) (s s' : σ), P s → l.foldlM f s = .ok s' → P s' := by
  intro l
  induction l with
  | nil =>
    intro s s' hs h
    cases h
    exact hs
  | cons b l ih =>
    intro s s' hs h
    rw [List.foldlM_cons] at h
    obtain ⟨s₁, h₁, h₂⟩ := exists_of_bind_eq_ok h
    exact ih s₁ s' (hf s b s₁ hs h₁) h₂

theorem size_put {α : Type} {xs ys : Array α} {i : Nat} {v : α} (h : Fault.put xs i v = .ok ys) :
    ys.size = xs.size := by
  unfold Fault.put at h
  split at h
  · cases h
    simp
  · cases h

section Elimination

variable {α : Type}

theorem size_swapEntries {b b' : Array α} {i j : Nat} (h : swapEntries b i j = .ok b') : b'.size = b.size := by
  unfold swapEntries at h
  obtain ⟨x, -, h⟩ := exists_of_bind_eq_ok h
  obtain ⟨y, -, h⟩ := exists_of_bind_eq_ok h
  obtain ⟨b₁, h₁, h⟩ := exists_of_bind_eq_ok h
  rw [size_put h, size_put h₁]

theorem size_eliminateBelow [OfScientific α] [Sub α] [Mul α] [Div α] [BEq α] {a b : Array α} {n col : Nat} {ab : Array α × Array α}
    (h : eliminateBelow a b n col = .ok ab) : ab.2.size = b.size := by
  unfold eliminateBelow at h
  obtain ⟨inv, -, h⟩ := exists_of_bind_eq_ok h
  refine foldlM_ok_inv (fun ab : Array α × Array α => ab.2.size = b.size) _ ?_ _ _ _ rfl h
  intro s r s' hs hr
  obtain ⟨f, -, hr⟩ := exists_of_bind_eq_ok hr
  dsimp only at hr
  split at hr
  · cases hr
    exact hs
  · obtain ⟨a', -, hr⟩ := exists_of_bind_eq_ok hr
    obtain ⟨br, -, hr⟩ := exists_of_bind_eq_ok hr
    obtain ⟨bc, -, hr⟩ := exists_of_bind_eq_ok hr
    obtain ⟨b', hb', hr⟩ := exists_of_bind_eq_ok hr
    cases hr
    rw [← hs]
    exact size_put hb'

theorem size_backSubstitute [Sub α] [Mul α] [Div α] {a b x : Array α} {n : Nat} (h : backSubstitute a b n = .ok x) :
    x.size = b.size := by
  unfold backSubstitute at h
  refine foldlM_ok_inv (fun y : Array α => y.size = b.size) _ ?_ _ _ _ rfl h
  intro y k y' hy hstep
  obtain ⟨s, -, hstep⟩ := exists_of_bind_eq_ok hstep
  obtain ⟨s, -, hstep⟩ := exists_of_bind_eq_ok hstep
  obtain ⟨d, -, hstep⟩ := exists_of_bind_eq_ok hstep
  rw [size_put hstep, hy]

section Pivoting

variable [OfScientific α] [Sub α] [Mul α] [Div α] [LT α] [DecidableLT α] [BEq α] [Magnitude α]

theorem size_eliminateColumn {n col : Nat} {ab ab' : Array α × Array α}
    (h : eliminateColumn n ab col = .ok (some ab')) : ab'.2.size = ab.2.size := by
  unfold eliminateColumn at h
  obtain ⟨pb, -, h⟩ := exists_of_bind_eq_ok h
  split at h
  · cases h
  · split at h
    · obtain ⟨a, -, h⟩ := exists_of_bind_eq_ok h
      obtain ⟨b, hb, h⟩ := exists_of_bind_eq_ok h
      obtain ⟨ab'', hab, h⟩ := exists_of_bind_eq_ok h
      cases h
      rw [size_eliminateBelow hab, size_swapEntries hb]
    · obtain ⟨ab'', hab, h⟩ := exists_of_bind_eq_ok h
      cases h
      exact size_eliminateBelow hab

theorem size_reduceColumns {a b a' b' : Array α} {n k : Nat}
    (h : reduceColumns a b n k = .ok (some (a', b'))) : b'.size = b.size := by
  unfold reduceColumns at h
  refine foldlM_ok_inv (fun acc : Option (Array α × Array α) => ∀ ab, acc = some ab → ab.2.size = b.size)
    _ ?_ _ _ _ (fun ab h => by cases h; rfl) h _ rfl
  intro acc col acc' hacc hstep ab hab
  cases acc with
  | none => cases hstep; cases hab
  | some ab₀ =>
    subst hab
    rw [size_eliminateColumn hstep]
    exact hacc ab₀ rfl

theorem size_solve {a b x : Array α} {n : Nat} (h : solve a b n = .ok (some x)) : x.size = b.size := by
  unfold solve at h
  obtain ⟨r, hr, h⟩ := exists_of_bind_eq_ok h
  cases r with
  | none => cases h
  | some ab =>
    obtain ⟨x', hx', h⟩ := exists_of_bind_eq_ok h
    cases h
    rw [size_backSubstitute hx', size_reduceColumns hr]

theorem size_accelerations [Inhabited α] {mass rhs : Array α} {n : Nat} (h : rhs.size = n) :
    (accelerations mass rhs n).size = n := by
  unfold accelerations
  split
  · rename_i x hx
    rw [size_solve hx, h]
  · simp

end Pivoting

theorem size_rightHandSide [OfScientific α] [Add α] [Sub α] [Mul α] [Div α] [Inhabited α] (n : Nat)
    (g : Vec3 α) (eps : α) (dq : Array α) (links : Array (LinkFrame α)) (jv jw jvd jwd : Array (Vec3 α))
    (rhs : Array α) : (rightHandSide n g eps dq links jv jw jvd jwd rhs).size = rhs.size :=
  Sim.foldl_keeps Array.size _ (fun r _ => Sim.foldl_keeps Array.size _ (fun _ _ => by simp) _ r) _ rhs

end Elimination


end Dynamics

/-! ## Links that differ in pose or position alone -/

/-- A link with its pose set aside. -/
def Link.withoutPose (l : Link) : Link := { l with pose := Mat4.ident }

theorem Link.eq_of_withoutPose {l₁ l₂ : Link} (h : l₁.withoutPose = l₂.withoutPose) (hp : l₁.pose = l₂.pose) :
    l₁ = l₂ := by
  cases l₁; cases l₂
  simp only [Link.withoutPose, Link.mk.injEq] at h hp ⊢
  simp_all

@[simp] theorem Link.withoutMotion_withoutPose (l : Link) : l.withoutPose.withoutMotion = l.withoutMotion := rfl

@[simp] theorem Link.withoutState_withoutPose (l : Link) : l.withoutPose.withoutState = l.withoutState := rfl

@[simp] theorem Link.jointTransform_withoutPose (l : Link) : l.withoutPose.jointTransform = l.jointTransform := rfl

theorem Link.view_eq_of_withoutPose {β : Type} (g : Link → β) (hg : ∀ l, g l.withoutPose = g l)
    {l₁ l₂ : Link} (h : l₁.withoutPose = l₂.withoutPose) : g l₁ = g l₂ := by
  rw [← hg l₁, h, hg l₂]

/-- The link with its joint at position `x`. -/
def Link.withPosition (x : Float) (l : Link) : Link := { l with joint := { l.joint with q := x } }

namespace Assembly

variable (a : Assembly)

theorem link_foldl_modifyLink (f : Nat → Link → Link) {js : Array LinkId} (hnd : js.toList.Nodup)
    (hin : ∀ j ∈ js, j.idx < a.links.size) :
    ∀ n : Nat, n ≤ js.size →
      (∀ (k : Nat) (hk : k < js.size), k < n →
        ((List.range n).foldl (fun x i => x.modifyLink js[i]! (f i)) a).link js[k] = f k (a.link js[k])) ∧
      (∀ l ∉ js.toList.take n, ((List.range n).foldl (fun x i => x.modifyLink js[i]! (f i)) a).link l = a.link l) := by
  intro n
  induction n with
  | zero => exact fun _ => ⟨fun k _ hk => absurd hk (Nat.not_lt_zero k), fun _ _ => rfl⟩
  | succ n ih =>
    intro hn
    obtain ⟨ih₁, ih₂⟩ := ih (by omega)
    rw [List.range_succ, List.foldl_append, List.foldl_cons, List.foldl_nil, getElem!_pos js n (by omega)]
    have hnot : js[n] ∉ js.toList.take n := by
      have := getElem_not_mem_take hnd (n := n) (by rw [Array.length_toList]; omega) (Nat.le_refl n)
      rwa [Array.getElem_toList] at this
    refine ⟨fun k hk hkn' => ?_, fun l hl => ?_⟩
    · by_cases hkn : k = n
      · subst hkn
        rw [link_modifyLink, if_pos ⟨rfl, by rw [size_foldl_modifyLink]; exact hin _ (Array.getElem_mem _)⟩,
          ih₂ _ hnot]
      · have hne : js[n] ≠ js[k] := fun h =>
          hkn ((hnd.getElem_inj_iff (i := k) (j := n)).1 (by simpa only [Array.getElem_toList] using h.symm))
        rw [link_modifyLink_of_ne _ _ hne, ih₁ k hk (by omega)]
    · have hl' : l ∉ js.toList.take n := fun h => hl (List.take_subset_take_left _ (Nat.le_succ n) h)
      have hne : js[n] ≠ l := by
        rintro rfl
        exact hl (List.mem_take_iff_getElem.2 ⟨n, by rw [Array.length_toList]; omega, Array.getElem_toList _⟩)
      rw [link_modifyLink_of_ne _ _ hne, ih₂ l hl']

theorem foldl_zip_positions (js : Array LinkId) (q : Array Float) (c : Assembly) :
    (js.zip q).foldl (fun a (j, x) => a.modifyLink j fun l => { l with joint := { l.joint with q := x } }) c =
      (List.range (min js.size q.size)).foldl (fun x i => x.modifyLink js[i]! (Link.withPosition q[i]!)) c := by
  rw [← Array.foldl_toList, Array.toList_zip]
  have hzip : js.toList.zip q.toList = (List.range (min js.size q.size)).map fun i => (js[i]!, q[i]!) := by
    apply List.ext_getElem
    · simp
    · intro i h₁ h₂
      simp at h₁
      simp [getElem!_pos js i h₁.1, getElem!_pos q i h₁.2]
  rw [hzip, List.foldl_map]
  rfl

theorem ext_fields {x y : Assembly} (hl : x.links = y.links) (hb : x.bodies = y.bodies)
    (hi : x.nextIdentity = y.nextIdentity) : x = y := by
  cases x
  cases y
  simp_all

@[simp] theorem size_forwardKinematics (b : BodyId) : (a.forwardKinematics b).links.size = a.links.size := by
  rw [forwardKinematics_eq_foldl]
  exact Array.foldl_induction (fun _ (x : Assembly) => x.links.size = a.links.size) rfl
    (fun _ x hx => by rw [size_placeLink, hx])

@[simp] theorem nextIdentity_forwardKinematics (b : BodyId) :
    (a.forwardKinematics b).nextIdentity = a.nextIdentity := by
  rw [forwardKinematics_eq_foldl]
  refine Array.foldl_induction (fun _ (x : Assembly) => x.nextIdentity = a.nextIdentity) rfl ?_
  intro i x hx
  unfold placeLink
  dsimp only
  split
  · exact hx
  · split
    · exact hx
    · exact hx

theorem links_eq_of_link {x y : Assembly} (hs : y.links.size = x.links.size) (h : ∀ l, y.link l = x.link l) :
    y.links = x.links := by
  apply Array.ext hs
  intro i h₁ h₂
  have hi := h ⟨i⟩
  simp only [link, Array.getD_eq_getD_getElem?, Array.getElem?_eq_getElem h₁, Array.getElem?_eq_getElem h₂,
    Option.getD_some] at hi
  exact hi

/-! ## What forward kinematics reads

Forward kinematics of an indexed body poses each link from its parent, so of
the poses it finds it reads only an unmounted root's; a mounted root is
placed against a link of another body.  Two assemblies that differ only in
poses of the body's links other than that root end alike. -/

section Congr

variable {x y : Assembly} {b : BodyId} {t : LinkTree} (hl : ∀ l, (y.link l).withoutPose = (x.link l).withoutPose)
include hl

theorem forwardKinematics_withoutPose_congr (l : LinkId) :
    ((y.forwardKinematics b).link l).withoutPose = ((x.forwardKinematics b).link l).withoutPose := by
  rw [forwardKinematics_keeps y Link.withoutPose (fun _ _ => rfl) b l,
    forwardKinematics_keeps x Link.withoutPose (fun _ _ => rfl) b l, hl l]

variable (hx : x.Indexed b t) (hb : y.bodies = x.bodies)
include hx hb

theorem forwardKinematics_mounted_root_congr (hout : ∀ l ∉ (x.body b).links, y.link l = x.link l)
    (hm : x.hasParentBody (x.link t.root) = true) :
    ((y.forwardKinematics b).link t.root).pose = ((x.forwardKinematics b).link t.root).pose := by
  have hy : y.Indexed b t :=
    Indexed.congr hb (fun l => Link.view_eq_of_withoutPose _ Link.withoutMotion_withoutPose (hl l)) hx
  have hview : ∀ l, _ := forwardKinematics_withoutPose_congr (b := b) hl
  have hstate : ∀ l, (y.link l).withoutState = (x.link l).withoutState :=
    fun l => Link.view_eq_of_withoutPose _ Link.withoutState_withoutPose (hl l)
  have hmem : t.root ∈ (x.body b).links := hx.root_mem hx.root
  have hbodyX : (x.forwardKinematics b).body b = x.body b := by simp only [body, bodies_forwardKinematics]
  have hbodyY : (y.forwardKinematics b).body b = x.body b := by simp only [body, bodies_forwardKinematics, hb]
  have hmX : (x.forwardKinematics b).hasParentBody ((x.forwardKinematics b).link t.root) = true := by
    rw [hasParentBody_congr (fun l => forwardKinematics_keeps x Link.withoutState (fun _ _ => rfl) b l)]
    exact hm
  have hmY : (y.forwardKinematics b).hasParentBody ((y.forwardKinematics b).link t.root) = true := by
    rw [hasParentBody_congr (fun l => forwardKinematics_keeps y Link.withoutState (fun _ _ => rfl) b l),
      hasParentBody_congr hstate]
    exact hm
  obtain ⟨p, hp, hpX⟩ := forwardKinematics_kinematic hx t.root (by rw [hbodyX]; exact hmem)
    (fun h => by rw [h.2] at hmX; cases hmX)
  obtain ⟨p', hp', hpY⟩ := forwardKinematics_kinematic hy t.root (by rw [hbodyY]; exact hmem)
    (fun h => by rw [h.2] at hmY; cases hmY)
  have hpar : ((y.forwardKinematics b).link t.root).parent = ((x.forwardKinematics b).link t.root).parent :=
    Link.view_eq_of_withoutPose Link.parent (fun _ => rfl) (hview _)
  rw [hpar, hp] at hp'
  cases hp'
  -- the parent is of another body, so neither pass moves it and the two agree on it
  have hpx : (x.link t.root).parent = some p := by
    rw [← hp]
    exact (forwardKinematics_keeps x Link.parent (fun _ _ => rfl) b t.root).symm
  have hpout : p ∉ (x.body b).links := by
    intro hpin
    unfold hasParentBody at hm
    rw [hpx] at hm
    simp [hx.body p hpin, hx.body t.root hmem] at hm
  have hXp : (x.forwardKinematics b).link p = x.link p := link_forwardKinematics_of_not_mem x b hpout
  have hYp : (y.forwardKinematics b).link p = x.link p := by
    rw [link_forwardKinematics_of_not_mem y b (by simp only [body, hb]; exact hpout)]
    exact hout p hpout
  rw [hpY, hpX, hYp, hXp, Link.view_eq_of_withoutPose Link.offset (fun _ => rfl) (hview t.root),
    Link.view_eq_of_withoutPose Link.jointTransform Link.jointTransform_withoutPose (hview t.root)]

theorem forwardKinematics_root_congr (hout : ∀ l ∉ (x.body b).links, y.link l = x.link l)
    (hroot : x.hasParentBody (x.link t.root) = false → (y.link t.root).pose = (x.link t.root).pose) :
    ((y.forwardKinematics b).link t.root).pose = ((x.forwardKinematics b).link t.root).pose := by
  cases hm : x.hasParentBody (x.link t.root)
  · have hstate : ∀ l, (y.link l).withoutState = (x.link l).withoutState :=
      fun l => Link.view_eq_of_withoutPose _ Link.withoutState_withoutPose (hl l)
    have hm' : y.hasParentBody (y.link t.root) = false := by rwa [hasParentBody_congr hstate]
    have hry : (y.body b).root = some t.root := by simp only [body, hb]; exact hx.root
    rw [forwardKinematics_root_pose y b hry hm', forwardKinematics_root_pose x b hx.root hm]
    exact hroot hm
  · exact forwardKinematics_mounted_root_congr hl hx hb hout hm

theorem forwardKinematics_congr (hs : y.links.size = x.links.size) (hid : y.nextIdentity = x.nextIdentity)
    (hout : ∀ l ∉ (x.body b).links, y.link l = x.link l)
    (hroot : x.hasParentBody (x.link t.root) = false → (y.link t.root).pose = (x.link t.root).pose) :
    y.forwardKinematics b = x.forwardKinematics b := by
  have hy : y.Indexed b t :=
    Indexed.congr hb (fun l => Link.view_eq_of_withoutPose _ Link.withoutMotion_withoutPose (hl l)) hx
  have hXi : (x.forwardKinematics b).Indexed b t :=
    Indexed.congr (bodies_forwardKinematics x b) (withoutMotion_forwardKinematics x b) hx
  have hbXY : (y.forwardKinematics b).bodies = (x.forwardKinematics b).bodies := by simp [hb]
  have hview : ∀ l, _ := forwardKinematics_withoutPose_congr (b := b) hl
  -- both are posed from the same root pose through the same joints
  have hposes := Kinematic.pose_eq (forwardKinematics_kinematic hx) (forwardKinematics_kinematic hy) hXi hbXY
    (fun l => Link.view_eq_of_withoutPose _ Link.withoutMotion_withoutPose (hview l))
    (forwardKinematics_root_congr hl hx hb hout hroot)
    (fun l _ => Link.view_eq_of_withoutPose _ Link.jointTransform_withoutPose (hview l))
  have hlink : ∀ l, (y.forwardKinematics b).link l = (x.forwardKinematics b).link l := by
    intro l
    by_cases hl' : l ∈ (x.body b).links
    · exact Link.eq_of_withoutPose (hview l) (hposes l (by simp only [body, bodies_forwardKinematics]; exact hl'))
    · rw [link_forwardKinematics_of_not_mem y b (by simp only [body, hb]; exact hl'),
        link_forwardKinematics_of_not_mem x b hl', hout l hl']
  exact Assembly.ext_fields (links_eq_of_link (by simp [hs]) hlink) hbXY (by simp [hid])

end Congr

/-! ## Placing the joints -/

/-- The first stage of `setJointPositions`: the `i`-th joint put at the `i`-th
position, as far as both go. -/
def setPositions (c : Assembly) (js : Array LinkId) (q : Array Float) : Assembly :=
  (List.range (min js.size q.size)).foldl (fun x i => x.modifyLink js[i]! (Link.withPosition q[i]!)) c

theorem setJointPositions_eq (c : Assembly) (b : BodyId) (js : Array LinkId) (q : Array Float) :
    c.setJointPositions b js q = (c.setPositions js q).forwardKinematics b := by
  unfold setJointPositions setPositions
  rw [foldl_zip_positions]

theorem setPositions_keeps {β : Type} (g : Link → β) (hg : ∀ v l, g (Link.withPosition v l) = g l)
    (c : Assembly) (js : Array LinkId) (q : Array Float) (l : LinkId) :
    g ((c.setPositions js q).link l) = g (c.link l) :=
  Sim.foldl_keeps (fun x : Assembly => g (x.link l)) _
    (fun x _ => x.link_modifyLink_keeps g (hg _) _ l) _ c

@[simp] theorem bodies_setPositions (c : Assembly) (js : Array LinkId) (q : Array Float) :
    (c.setPositions js q).bodies = c.bodies :=
  Sim.foldl_keeps (fun x : Assembly => x.bodies)
    (fun x i => x.modifyLink js[i]! (Link.withPosition q[i]!)) (fun _ _ => rfl) _ c

@[simp] theorem nextIdentity_setPositions (c : Assembly) (js : Array LinkId) (q : Array Float) :
    (c.setPositions js q).nextIdentity = c.nextIdentity :=
  Sim.foldl_keeps (fun x : Assembly => x.nextIdentity)
    (fun x i => x.modifyLink js[i]! (Link.withPosition q[i]!)) (fun _ _ => rfl) _ c

@[simp] theorem size_setPositions (c : Assembly) (js : Array LinkId) (q : Array Float) :
    (c.setPositions js q).links.size = c.links.size :=
  c.size_foldl_modifyLink _ _ _

section Distinct

variable {c : Assembly} {js : Array LinkId} (hnd : js.toList.Nodup) (hin : ∀ j ∈ js, j.idx < c.links.size)
include hnd hin

theorem link_setPositions_getElem (q : Array Float) {k : Nat} (hk : k < js.size) (hkq : k < q.size) :
    (c.setPositions js q).link js[k] = Link.withPosition q[k] (c.link js[k]) := by
  have h := (c.link_foldl_modifyLink (fun i => Link.withPosition q[i]!) hnd hin _ (Nat.min_le_left _ _)).1 k hk
    (Nat.lt_min.2 ⟨hk, hkq⟩)
  rw [getElem!_pos q k hkq] at h
  exact h

theorem link_setPositions_of_not_mem (q : Array Float) {l : LinkId} (hl : l ∉ js.toList) :
    (c.setPositions js q).link l = c.link l :=
  (c.link_foldl_modifyLink (fun i => Link.withPosition q[i]!) hnd hin _ (Nat.min_le_left _ _)).2 l
    (fun h => hl (List.mem_of_mem_take h))

end Distinct

theorem withoutPose_withPosition_congr {l₁ l₂ : Link}
    (h : (Link.withPosition 0.0 l₁).withoutPose = (Link.withPosition 0.0 l₂).withoutPose) (v : Float) :
    (Link.withPosition v l₁).withoutPose = (Link.withPosition v l₂).withoutPose :=
  congrArg (Link.withPosition v) h

theorem setJointPositions_setJointPositions {a : Assembly} {b : BodyId} {t : LinkTree} (h : a.Indexed b t)
    {q : Array Float} (hq : (a.body b).joints.size ≤ q.size) (q' : Array Float) :
    (a.setJointPositions b (a.body b).joints q').setJointPositions b (a.body b).joints q =
      a.setJointPositions b (a.body b).joints q := by
  set js := (a.body b).joints with hjs
  have hnd : js.toList.Nodup := h.joints_nodup
  have hin : ∀ j ∈ js, j.idx < a.links.size := fun j hj => Indexed.lt_size_of_mem h (h.joint_mem hj)
  rw [setJointPositions_eq, setJointPositions_eq, setJointPositions_eq]
  set c := (a.setPositions js q').forwardKinematics b with hc
  have hin' : ∀ j ∈ js, j.idx < c.links.size := fun j hj => by simpa [c] using hin j hj
  have hbody : ∀ l, l ∉ (a.body b).links → l ∉ js.toList := fun l hl hj =>
    hl (h.joint_mem (Array.mem_toList_iff.1 hj))
  refine forwardKinematics_congr (x := a.setPositions js q) (fun l => ?_)
    (Indexed.congr (bodies_setPositions a js q) (fun l => setPositions_keeps Link.withoutMotion (fun _ _ => rfl) a js q l) h)
    (by simp [c]) (by simp [c]) (by simp [c]) (fun l hl => ?_) (fun hm => ?_)
  · -- a joint is at its new position in both, everything else as it was
    by_cases hl' : l ∈ js.toList
    · obtain ⟨k, hk, rfl⟩ := List.mem_iff_getElem.1 hl'
      simp only [Array.length_toList] at hk
      simp only [Array.getElem_toList]
      rw [link_setPositions_getElem hnd hin' q hk (by omega), link_setPositions_getElem hnd hin q hk (by omega)]
      apply withoutPose_withPosition_congr
      rw [hc, forwardKinematics_keeps _ (fun l => (Link.withPosition 0.0 l).withoutPose) (fun _ _ => rfl),
        setPositions_keeps (fun l => (Link.withPosition 0.0 l).withoutPose) (fun _ _ => rfl)]
    · rw [link_setPositions_of_not_mem hnd hin' q hl', link_setPositions_of_not_mem hnd hin q hl', hc,
        forwardKinematics_keeps _ Link.withoutPose (fun _ _ => rfl), link_setPositions_of_not_mem hnd hin q' hl']
  · -- a link of no joint of the body is left alone
    simp only [body, bodies_setPositions] at hl
    rw [link_setPositions_of_not_mem hnd hin' q (hbody l hl), link_setPositions_of_not_mem hnd hin q (hbody l hl),
      hc, link_forwardKinematics_of_not_mem _ b (by simpa [body] using hl),
      link_setPositions_of_not_mem hnd hin q' (hbody l hl)]
  · -- an unmounted root keeps its pose through every stage
    rw [hasParentBody_congr (fun l => setPositions_keeps Link.withoutState (fun _ _ => rfl) a js q l)] at hm
    have hm' : (a.setPositions js q').hasParentBody ((a.setPositions js q').link t.root) = false := by
      rw [hasParentBody_congr (fun l => setPositions_keeps Link.withoutState (fun _ _ => rfl) a js q' l)]
      exact hm
    rw [setPositions_keeps Link.pose (fun _ _ => rfl), setPositions_keeps Link.pose (fun _ _ => rfl), hc,
      forwardKinematics_root_pose _ b (by simpa [body] using h.root) hm',
      setPositions_keeps Link.pose (fun _ _ => rfl)]

theorem jointRate_setJointPositions {a : Assembly} {b : BodyId} {t : LinkTree} (h : a.Indexed b t) (g : Vec3)
    {x : State} (hx : (a.body b).joints.size ≤ x.size) (u q' : Array Float) :
    (a.setJointPositions b (a.body b).joints q').jointRate b (a.body b).joints g x u =
      a.jointRate b (a.body b).joints g x u := by
  unfold jointRate
  -- the body reads the assembly only through the two placements of its joints
  dsimp only
  rw [setJointPositions_setJointPositions h (by simp; omega) q', setJointPositions_setJointPositions h (by simp) q']

/-- Changing each joint of an indexed body in its state alone and then
putting the joints at positions re-poses the body: each joint holds its
changed state with the position set where one is given, and every link keeps
all but its joint state and pose, every link of another body all of it. -/
theorem setJointPositions_after_joints {a : Assembly} {b : BodyId} {t : LinkTree} (h : a.Indexed b t)
    (f : Nat → Link → Link) (hf : ∀ i l, (f i l).withoutState = l.withoutState) (q : Array Float) :
    let js := (a.body b).joints
    let a' := ((List.range js.size).foldl (fun c i => c.modifyLink js[i]! (f i)) a).setJointPositions b js q
    a'.Kinematic b ∧
      (∀ k (hk : k < js.size), (a'.link js[k]).joint =
        if hkq : k < q.size then { (f k (a.link js[k])).joint with q := q[k] } else (f k (a.link js[k])).joint) ∧
      (∀ l, (a'.link l).withoutState = (a.link l).withoutState) ∧
      (∀ l ∉ (a.body b).links, a'.link l = a.link l) := by
  intro js a'
  have hnd : js.toList.Nodup := h.joints_nodup
  have hin : ∀ j ∈ js, j.idx < a.links.size := fun j hj => Indexed.lt_size_of_mem h (h.joint_mem hj)
  set S := (List.range js.size).foldl (fun c i => c.modifyLink js[i]! (f i)) a with hS
  have hS₁ := (a.link_foldl_modifyLink f hnd hin js.size le_rfl).1
  have hS₂ := (a.link_foldl_modifyLink f hnd hin js.size le_rfl).2
  have hSstate : ∀ l, (S.link l).withoutState = (a.link l).withoutState :=
    fun l => Sim.foldl_keeps (fun x : Assembly => (x.link l).withoutState) _
      (fun x i => x.link_modifyLink_keeps Link.withoutState (hf i) _ l) _ a
  have hSbodies : S.bodies = a.bodies :=
    Sim.foldl_keeps (fun x : Assembly => x.bodies) (fun c i => c.modifyLink js[i]! (f i)) (fun _ _ => rfl) _ a
  have hSbody : S.body b = a.body b := by simp only [body, hSbodies]
  have hinS : ∀ j ∈ js, j.idx < S.links.size := fun j hj => by
    rw [hS, size_foldl_modifyLink]; exact hin j hj
  have hbody : ∀ l, l ∉ (a.body b).links → l ∉ js.toList := fun l hl hj =>
    hl (h.joint_mem (Array.mem_toList_iff.1 hj))
  have ha' : a' = (S.setPositions js q).forwardKinematics b := setJointPositions_eq S b js q
  refine ⟨?_, fun k hk => ?_, fun l => ?_, fun l hl => ?_⟩
  · -- the placed body is indexed as before, so forward kinematics poses it
    rw [ha']
    refine forwardKinematics_kinematic (Indexed.congr (by simp [hSbodies]) (fun l => ?_) h)
    rw [setPositions_keeps Link.withoutMotion (fun _ _ => rfl)]
    exact Link.withoutMotion_eq_of_withoutState (hSstate l)
  · rw [ha', forwardKinematics_keeps _ Link.joint (fun _ _ => rfl)]
    by_cases hkq : k < q.size
    · rw [link_setPositions_getElem hnd hinS q hk hkq, dif_pos hkq, hS₁ k hk hk]
      rfl
    · rw [dif_neg hkq, ← hS₁ k hk hk]
      congr 1
      refine (S.link_foldl_modifyLink (fun i => Link.withPosition q[i]!) hnd hinS _ (Nat.min_le_left _ _)).2 _ ?_
      exact getElem_not_mem_take hnd (by simpa using hk) (by omega) |>.elim
  · rw [ha', forwardKinematics_keeps _ Link.withoutState (fun _ _ => rfl),
      setPositions_keeps Link.withoutState (fun _ _ => rfl), hSstate l]
  · rw [ha', link_forwardKinematics_of_not_mem _ b (by rw [body, bodies_setPositions, ← body, hSbody]; exact hl),
      link_setPositions_of_not_mem hnd hinS q (hbody l hl), hS₂ l (fun h' => hbody l hl (List.mem_of_mem_take h'))]

theorem size_jointRate (a : Assembly) (b : BodyId) (js : Array LinkId) (g : Vec3) {x : State}
    (hx : 2 * js.size ≤ x.size) (u : Array Float) :
    (a.jointRate b js g x u).size = 2 * js.size := by
  unfold jointRate
  simp only [Id.run_bind, Id.run_pure, Array.size_append, Array.size_extract]
  rw [Dynamics.size_accelerations]
  · omega
  · -- the right-hand side starts as one effort per joint
    rw [Dynamics.size_rightHandSide]
    exact forIn_range_keeps (fun s : Array Float => s.size = js.size) _ _ (fun i s hs => by simp [hs]) _ (by simp)


/-- The joints' step from the integrator's answer: a new state that is not
finite is reported as `none`; otherwise the body is left kinematic, each
joint at its integrated position and rate with the acceleration the body's
derivative gives at the new state, every link with all but its joint state
and pose as it was, and every link of another body untouched. -/
theorem stepJoints_spec {a : Assembly} {b : BodyId} {t : LinkTree} (h : a.Indexed b t)
    (hn : (a.body b).joints.size ≠ 0) (integ : Integrator) (g : Vec3) (tm dt : Float) :
    let js := (a.body b).joints
    let n := js.size
    let ls := js.map a.link
    let x := ls.map (·.joint.q) ++ ls.map (·.joint.dq)
    let u := ls.map fun l => l.limits.clampEffort l.joint.u
    let f : Derivative := fun y v _ => .ok (a.jointRate b js g y v)
    (∀ next, integ.step f x u tm dt = .ok next → State.isValid next = false →
      a.stepJoints b integ g tm dt = .ok none) ∧
    (∀ next, integ.step f x u tm dt = .ok next → State.isValid next = true →
      ∃ a', a.stepJoints b integ g tm dt = .ok (some a') ∧ a'.Kinematic b ∧
        (∀ k (hk : k < n), (a'.link js[k]).joint =
          { (a.link js[k]).joint with q := next[k]!, dq := next[n + k]!,
                                      ddq := (a.jointRate b js g next u).getD (n + k) 0.0 }) ∧
        (∀ l, (a'.link l).withoutState = (a.link l).withoutState) ∧
        (∀ l ∉ (a.body b).links, a'.link l = a.link l)) := by
  intro js n ls x u f
  refine ⟨fun next hnext hv => ?_, fun next hnext hv => ?_⟩
  · unfold stepJoints
    simp only [f, x, u, ls, js] at hnext
    simp only [hn, if_false, hnext, Dynamics.ok_bind, hv, Bool.not_false, if_true]
    rfl
  · unfold stepJoints
    simp only [f, x, u, ls, js] at hnext
    simp only [hn, if_false, hnext, Dynamics.ok_bind, hv, Bool.not_true, Bool.false_eq_true]
    refine ⟨_, rfl, ?_⟩
    -- the write-back changes joint states alone, then the joints are placed at the new positions
    obtain ⟨hkin, hjoint, hstate, hout⟩ := setJointPositions_after_joints h
      (fun i l => { l with joint := { l.joint with q := next[i]!, dq := next[n + i]!,
                                                   ddq := (a.jointRate b js g next u).getD (n + i) 0.0 } })
      (fun _ _ => rfl) (next.extract 0 n)
    refine ⟨hkin, fun k hk => (hjoint k hk).trans ?_, hstate, hout⟩
    split
    · rename_i hkq
      have hq : (next.extract 0 n)[k] = next[k]! := by
        simp only [Array.getElem_extract, Nat.zero_add]
        exact (getElem!_pos next k (by simp at hkq; omega)).symm
      rw [hq]
    · rfl

/-- The joint-space step of a body is the integrator applied to a pure
vector field.  Every scheme computes its formula on every derivative of the
state and control that keeps the state's length, whatever came before; the
body's derivative is such a one, since what it returns ignores the positions
an earlier evaluation left on the links; and the step writes that formula's
new state back into the joints, with the accelerations of the derivative at
the new state and the links posed from them. -/
theorem stepJoints_integrates {a : Assembly} {b : BodyId} {t : LinkTree} (h : a.Indexed b t)
    (hn : (a.body b).joints.size ≠ 0) (integ : Integrator) (g : Vec3) (tm dt : Float) :
    let js := (a.body b).joints
    let n := js.size
    let ls := js.map a.link
    let x := ls.map (·.joint.q) ++ ls.map (·.joint.dq)
    let u := ls.map fun l => l.limits.clampEffort l.joint.u
    let F := a.jointRate b js g
    let next := integ.scheme F x u dt
    (∀ (integ : Integrator) (F : State → Array Float → State) (y : State) (v : Array Float) (s h : Float),
      (∀ z : State, z.size = y.size → (F z v).size = y.size) → (integ = .symplectic → y.size % 2 = 0) →
      integ.step (fun z w _ => .ok (F z w)) y v s h = .ok (integ.scheme F y v h)) ∧
    (∀ (q : Array Float) (y : State) (v : Array Float), n ≤ y.size →
      (a.setJointPositions b js q).jointRate b js g y v = F y v) ∧
    (State.isValid next = false → a.stepJoints b integ g tm dt = .ok none) ∧
    (State.isValid next = true →
      ∃ a', a.stepJoints b integ g tm dt = .ok (some a') ∧ a'.Kinematic b ∧
        (∀ k (hk : k < n), (a'.link js[k]).joint =
          { (a.link js[k]).joint with q := next[k]!, dq := next[n + k]!, ddq := (F next u).getD (n + k) 0.0 }) ∧
        (∀ l, (a'.link l).withoutState = (a.link l).withoutState) ∧
        (∀ l ∉ (a.body b).links, a'.link l = a.link l)) := by
  intro js n ls x u F next
  have hx : x.size = 2 * n := by
    simp only [x, ls, Array.size_append, Array.size_map]
    omega
  -- the body's derivative keeps the length of the joint state, so the scheme's formula applies
  have hstep : integ.step (fun y v _ => .ok (F y v)) x u tm dt = .ok next :=
    Integrator.step_pure integ F x u tm dt (fun y hy => by rw [hx] at hy ⊢; exact size_jointRate a b js g hy.ge u)
      (fun _ => by omega)
  obtain ⟨hnone, hsome⟩ := stepJoints_spec h hn integ g tm dt
  exact ⟨fun integ F y v s h hF heven => Integrator.step_pure integ F y v s h hF heven,
    fun q y v hy => jointRate_setJointPositions h g hy v q, hnone next hstep, hsome next hstep⟩

theorem staleSlide_stepJoints_integrates :
    (staleSlide.body ⟨0⟩).joints.size ≠ 0 ∧
    let a := staleSlide
    let b : BodyId := ⟨0⟩
    let integ := Integrator.rk4
    let g : Vec3 := ⟨0.0, 0.0, -9.81⟩
    let tm := 0.0
    let dt := 0.001
    let js := (a.body b).joints
    let n := js.size
    let ls := js.map a.link
    let x := ls.map (·.joint.q) ++ ls.map (·.joint.dq)
    let u := ls.map fun l => l.limits.clampEffort l.joint.u
    let F := a.jointRate b js g
    let next := integ.scheme F x u dt
    (∀ (integ : Integrator) (F : State → Array Float → State) (y : State) (v : Array Float) (s h : Float),
      (∀ z : State, z.size = y.size → (F z v).size = y.size) → (integ = .symplectic → y.size % 2 = 0) →
      integ.step (fun z w _ => .ok (F z w)) y v s h = .ok (integ.scheme F y v h)) ∧
    (∀ (q : Array Float) (y : State) (v : Array Float), n ≤ y.size →
      (a.setJointPositions b js q).jointRate b js g y v = F y v) ∧
    (State.isValid next = false → a.stepJoints b integ g tm dt = .ok none) ∧
    (State.isValid next = true →
      ∃ a', a.stepJoints b integ g tm dt = .ok (some a') ∧ a'.Kinematic b ∧
        (∀ k (hk : k < n), (a'.link js[k]).joint =
          { (a.link js[k]).joint with q := next[k]!, dq := next[n + k]!, ddq := (F next u).getD (n + k) 0.0 }) ∧
        (∀ l, (a'.link l).withoutState = (a.link l).withoutState) ∧
        (∀ l ∉ (a.body b).links, a'.link l = a.link l)) :=
  ⟨by decide, stepJoints_integrates staleSlide_indexed (by decide) .rk4 ⟨0.0, 0.0, -9.81⟩ 0.0 0.001⟩

end Assembly

end Multibody

