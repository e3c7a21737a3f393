import Multibody.Proofs.Body.Kinematics
import Multibody.Proofs.Dynamics.Elimination
import Mathlib
/-!
# The joint-space equations of motion

`Assembly.jointRate` solves `M ddq = rhs` for a body's joints.  The Jacobian
walk writes, for each link, the columns of the actuated joints above it in
its own body and no others (`jacobians_columns`).  Read over the reals
through `Vec3.toFun` and `Mat3.toMatrix`, the mass matrix is
`Σ m Jvᵀ Jv + Jwᵀ (R I Rᵀ) Jw` (`massMatrix_eq_sum`), positive semidefinite
when the masses and inertias are, and the accelerations solve the system
whenever elimination answers (`accelerations_spec`).
-/

namespace Multibody

open Matrix

theorem getD_set! {α : Type} (xs : Array α) (i j : Nat) (v d : α) :
    (xs.set! i v).getD j d = if i = j ∧ i < xs.size then v else xs.getD j d := by
  simp only [Array.set!_eq_setIfInBounds, Array.getD_eq_getD_getElem?, Array.getElem?_setIfInBounds]
  by_cases hij : i = j
  · subst hij
    by_cases hi : i < xs.size <;> simp [hi]
  · simp [hij]

/-! ## Real vectors and matrices -/

/-- A vector of reals as a function on its three axes. -/
def Vec3.toFun (v : Vec3 ℝ) : Fin 3 → ℝ := ![v.x, v.y, v.z]

/-- A column-major matrix of reals as a matrix. -/
def Mat3.toMatrix (m : Mat3 ℝ) : Matrix (Fin 3) (Fin 3) ℝ :=
  !![m.m0, m.m3, m.m6; m.m1, m.m4, m.m7; m.m2, m.m5, m.m8]

theorem Vec3.dot_eq_dotProduct (a b : Vec3 ℝ) : a.dot b = a.toFun ⬝ᵥ b.toFun := by
  simp [Vec3.dot, Vec3.toFun, dotProduct, Fin.sum_univ_three]

theorem Mat3.toFun_apply (m : Mat3 ℝ) (v : Vec3 ℝ) : (m.apply v).toFun = m.toMatrix *ᵥ v.toFun := by
  funext i
  fin_cases i <;> simp [Mat3.apply, Mat3.toMatrix, Vec3.toFun, Matrix.mulVec, dotProduct, Fin.sum_univ_three]

theorem Mat3.toMatrix_mul (a b : Mat3 ℝ) : (a.mul b).toMatrix = a.toMatrix * b.toMatrix := by
  ext i j
  fin_cases i <;> fin_cases j <;> simp [Mat3.mul, Mat3.toMatrix, Matrix.mul_apply, Fin.sum_univ_three]

theorem Mat3.toMatrix_transpose (a : Mat3 ℝ) : a.transpose.toMatrix = a.toMatrixᵀ := by
  ext i j
  fin_cases i <;> fin_cases j <;> rfl

/-! ## The Jacobian columns -/

namespace Assembly

/-- Link `l` hangs from `p`, a link of body `b`. -/
def UpIn (a : Assembly) (b : BodyId) (l p : LinkId) : Prop :=
  (a.link l).parent = some p ∧ (a.link p).body = some b

/-- `k` is `l` or hangs above it through links of body `b`. -/
def Above (a : Assembly) (b : BodyId) : LinkId → LinkId → Prop := Relation.ReflTransGen (a.UpIn b)

/-- The Jacobian columns of the joint of `k` for a centre of mass at `com`:
with `e` the joint axis in world axes, `(e × (com - origin), e)` for a
revolute joint and `(e, 0)` for a prismatic one. -/
def jointColumns (k : Link) (com : Vec3) : Vec3 × Vec3 :=
  let e := k.rotation.apply k.axis.normalize
  if k.jointType == .revolute then (e.cross (com - k.position), e) else (e, Vec3.zero)

@[simp] theorem size_setJointColumns (k : Link) (row : Nat) (com : Vec3) (jv jw : Array Vec3) :
    (setJointColumns k row com jv jw).1.size = jv.size ∧ (setJointColumns k row com jv jw).2.size = jw.size := by
  unfold setJointColumns
  split
  · simp
  · split <;> simp

theorem setJointColumns_getD (k : Link) (row : Nat) (com : Vec3) (jv jw : Array Vec3) (col : Nat) (z : Vec3)
    (hact : 0 ≤ k.jointId → k.jointType.isActuated = true)
    (hv : 0 ≤ k.jointId → row + k.jointId.toNat < jv.size) (hw : 0 ≤ k.jointId → row + k.jointId.toNat < jw.size) :
    (setJointColumns k row com jv jw).1.getD col z =
        (if 0 ≤ k.jointId ∧ row + k.jointId.toNat = col then (jointColumns k com).1 else jv.getD col z) ∧
      (setJointColumns k row com jv jw).2.getD col z =
        (if 0 ≤ k.jointId ∧ row + k.jointId.toNat = col ∧ k.jointType == .revolute then (jointColumns k com).2
         else jw.getD col z) := by
  unfold setJointColumns
  by_cases hneg : k.jointId < 0
  · simp [hneg, show ¬ 0 ≤ k.jointId by omega]
  · have hpos : 0 ≤ k.jointId := by omega
    have hact := hact hpos
    have hv := hv hpos
    have hw := hw hpos
    simp only [hneg, if_false, hpos, true_and]
    rcases ht : k.jointType with _ | _ | _ | _ | _ | c <;> simp only [ht, JointType.isActuated] at hact ⊢
    · simp +decide only [jointColumns, ht, getD_set!, hv, hw, and_true, if_true]
    · simp +decide only [jointColumns, ht, getD_set!, hv, and_true, and_false, if_false]
    all_goals cases hact

variable {a : Assembly} {b : BodyId} {t : LinkTree}

theorem above_iff_of_upIn {l p k : LinkId} (hp : a.UpIn b l p) : a.Above b l k ↔ k = l ∨ a.Above b p k := by
  rw [Above, Relation.ReflTransGen.cases_head_iff]
  constructor
  · rintro (rfl | ⟨q, hq, hqk⟩)
    · exact .inl rfl
    · obtain rfl : q = p := Option.some.inj (hq.1.symm.trans hp.1)
      exact .inr hqk
  · rintro (rfl | hpk)
    · exact .inl rfl
    · exact .inr ⟨p, hp, hpk⟩

theorem above_iff_of_top {l k : LinkId} (hup : ¬ ∃ p, a.UpIn b l p) : a.Above b l k ↔ k = l := by
  rw [Above, Relation.ReflTransGen.cases_head_iff]
  constructor
  · rintro (rfl | ⟨q, hq, -⟩)
    · rfl
    · exact absurd ⟨q, hq⟩ hup
  · rintro rfl
    exact .inl rfl

theorem jacobianWalk_succ (row : Nat) (com : Vec3) (fuel : Nat) {l : LinkId} (hl : (a.link l).body = some b)
    (j : Array Vec3 × Array Vec3) :
    a.jacobianWalk b row com (fuel + 1) (some l) j =
      a.jacobianWalk b row com fuel (a.link l).parent (setJointColumns (a.link l) row com j.1 j.2) := by
  obtain ⟨jv, jw⟩ := j
  simp [jacobianWalk, hl]

theorem jacobianWalk_stop (row : Nat) (com : Vec3) (fuel : Nat) {cur : Option LinkId}
    (hcur : ∀ p, cur = some p → (a.link p).body ≠ some b) (j : Array Vec3 × Array Vec3) :
    a.jacobianWalk b row com fuel cur j = j := by
  rcases fuel with _ | fuel
  · rfl
  · rcases cur with _ | p
    · rfl
    · obtain ⟨jv, jw⟩ := j
      simp [jacobianWalk, hcur p rfl]

theorem size_jacobianWalk (row : Nat) (com : Vec3) (fuel : Nat) :
    ∀ (cur : Option LinkId) (j : Array Vec3 × Array Vec3),
      (a.jacobianWalk b row com fuel cur j).1.size = j.1.size ∧
        (a.jacobianWalk b row com fuel cur j).2.size = j.2.size := by
  induction fuel with
  | zero => exact fun _ _ => ⟨rfl, rfl⟩
  | succ fuel ih =>
    intro cur j
    by_cases hcur : ∀ p, cur = some p → (a.link p).body ≠ some b
    · rw [jacobianWalk_stop row com _ hcur]
      exact ⟨rfl, rfl⟩
    · obtain ⟨l, rfl, hl⟩ : ∃ l, cur = some l ∧ (a.link l).body = some b := by simpa using hcur
      rw [jacobianWalk_succ row com fuel hl, (ih _ _).1, (ih _ _).2]
      exact size_setJointColumns ..

theorem Indexed.index_nonneg (h : a.Indexed b t) {l : LinkId} (hl : l ∈ (a.body b).links) :
    0 ≤ (a.link l).index := by
  obtain ⟨i, hi, rfl⟩ := Array.mem_iff_getElem.1 hl
  rw [h.index i hi]
  omega

theorem Indexed.actuated_of_jointId (h : a.Indexed b t) {l : LinkId} (hl : l ∈ (a.body b).links)
    (hj : 0 ≤ (a.link l).jointId) : (a.link l).jointType.isActuated = true := by
  by_contra hna
  have := h.unactuated l hl (by simpa using hna)
  omega

theorem Indexed.eq_joint (h : a.Indexed b t) {k : LinkId} (hk : k ∈ (a.body b).links)
    (hj : 0 ≤ (a.link k).jointId) :
    ∃ hc : (a.link k).jointId.toNat < (a.body b).joints.size,
      (a.body b).joints[(a.link k).jointId.toNat] = k := by
  have hact := h.actuated_of_jointId hk hj
  have hmem : k ∈ (a.body b).joints := by
    rw [← Array.mem_toList_iff, h.joints, ← h.links]
    exact List.mem_filter.2 ⟨Array.mem_toList_iff.2 hk, hact⟩
  obtain ⟨c, hc, rfl⟩ := Array.mem_iff_getElem.1 hmem
  have hid := h.jointId c hc
  rw [hid]
  exact ⟨by simpa using hc, by simp⟩

theorem Indexed.joint_eq_iff (h : a.Indexed b t) {l : LinkId} (hl : l ∈ (a.body b).links) {c : Nat}
    (hc : c < (a.body b).joints.size) :
    (a.body b).joints[c] = l ↔ 0 ≤ (a.link l).jointId ∧ (a.link l).jointId.toNat = c := by
  constructor
  · rintro rfl
    rw [h.jointId c hc]
    omega
  · rintro ⟨hpos, rfl⟩
    exact (h.eq_joint hl hpos).2

theorem row_apart {n li m c : Nat} (hne : li ≠ m) (hc : c < n) : li * n + c < m * n ∨ m * n + n ≤ li * n + c := by
  rcases Nat.lt_or_gt_of_ne hne with hlt | hgt
  · left
    have := Nat.mul_le_mul_right n (Nat.succ_le_of_lt hlt)
    rw [Nat.succ_mul] at this
    omega
  · right
    have := Nat.mul_le_mul_right n (Nat.succ_le_of_lt hgt)
    rw [Nat.succ_mul] at this
    omega

open scoped Classical in
theorem Indexed.getD_setJointColumns (h : a.Indexed b t) {l : LinkId} (hl : l ∈ (a.body b).links)
    (row : Nat) (com z : Vec3) (jv jw : Array Vec3) (hv : row + (a.body b).joints.size ≤ jv.size)
    (hw : row + (a.body b).joints.size ≤ jw.size) :
    (∀ col, (col < row ∨ row + (a.body b).joints.size ≤ col) →
      (setJointColumns (a.link l) row com jv jw).1.getD col z = jv.getD col z ∧
        (setJointColumns (a.link l) row com jv jw).2.getD col z = jw.getD col z) ∧
    ∀ c (hc : c < (a.body b).joints.size),
      (setJointColumns (a.link l) row com jv jw).1.getD (row + c) z =
        (if (a.body b).joints[c] = l then (jointColumns (a.link (a.body b).joints[c]) com).1
         else jv.getD (row + c) z) ∧
      (setJointColumns (a.link l) row com jv jw).2.getD (row + c) z =
        (if (a.body b).joints[c] = l ∧ (a.link (a.body b).joints[c]).jointType == .revolute
         then (jointColumns (a.link (a.body b).joints[c]) com).2 else jw.getD (row + c) z) := by
  have hn : ∀ _ : 0 ≤ (a.link l).jointId, (a.link l).jointId.toNat < (a.body b).joints.size :=
    fun hj => (h.eq_joint hl hj).1
  have hset := fun col => setJointColumns_getD (a.link l) row com jv jw col z
    (h.actuated_of_jointId hl) (fun hj => by have := hn hj; omega) (fun hj => by have := hn hj; omega)
  refine ⟨fun col hcol => ?_, fun c hc => ?_⟩
  · have hno : ¬ (0 ≤ (a.link l).jointId ∧ row + (a.link l).jointId.toNat = col) := fun ⟨hj, he⟩ => by
      have := hn hj
      omega
    rw [(hset col).1, (hset col).2, if_neg hno, if_neg (fun h' => hno ⟨h'.1, h'.2.1⟩)]
    exact ⟨rfl, rfl⟩
  · -- the joint's own column is the one its number names
    have hown : (0 ≤ (a.link l).jointId ∧ row + (a.link l).jointId.toNat = row + c) ↔
        (a.body b).joints[c] = l := by
      rw [h.joint_eq_iff hl hc]
      omega
    rw [(hset _).1, (hset _).2]
    by_cases he : (a.body b).joints[c] = l
    · simp [he, hown.2 he]
    · have hw' := mt hown.1 he
      have hw'' : ¬ (0 ≤ (a.link l).jointId ∧ row + (a.link l).jointId.toNat = row + c ∧
          ((a.link l).jointType == JointType.revolute) = true) := fun h' => hw' ⟨h'.1, h'.2.1⟩
      simp only [hw', hw'', he, false_and, if_false, and_self]

section Walk

variable (h : a.Indexed b t) (hr : a.isBodyRoot (a.link t.root) = true)
include h hr

theorem Indexed.upIn {l p : LinkId} (hl : l ∈ (a.body b).links) (hup : a.UpIn b l p) :
    p ∈ (a.body b).links ∧ (a.link p).index < (a.link l).index := by
  obtain ⟨i, hi, rfl⟩ := Array.mem_iff_getElem.1 hl
  rcases Nat.eq_zero_or_pos i with rfl | hpos
  · -- the root hangs from no link of its own body
    have hroot : (a.body b).links[0] = t.root := Option.some.inj ((h.getElem_zero hi).symm.trans h.root)
    rw [hroot] at hup
    have hown : (a.link t.root).body = some b := h.body _ (h.root_mem h.root)
    simp [isBodyRoot, hup.1, hup.2, hown] at hr
  · obtain ⟨j, hj, hpj⟩ := h.parent_getElem hi hpos
    rw [hup.1] at hpj
    cases hpj
    refine ⟨Array.getElem_mem _, ?_⟩
    rw [h.index j (by omega), h.index i hi]
    exact_mod_cast hj

theorem Indexed.above {l k : LinkId} (hl : l ∈ (a.body b).links) (hk : a.Above b l k) :
    k ∈ (a.body b).links ∧ (a.link k).index ≤ (a.link l).index := by
  induction hk with
  | refl => exact ⟨hl, le_rfl⟩
  | tail _ hup ih =>
    obtain ⟨hp, hlt⟩ := h.upIn hr ih.1 hup
    exact ⟨hp, by omega⟩

open scoped Classical in
theorem jacobianWalk_getD (row : Nat) (com z : Vec3) (fuel : Nat) :
    ∀ l, l ∈ (a.body b).links → (a.link l).index < fuel → ∀ jv jw : Array Vec3,
      row + (a.body b).joints.size ≤ jv.size → row + (a.body b).joints.size ≤ jw.size →
      (∀ col, (col < row ∨ row + (a.body b).joints.size ≤ col) →
        (a.jacobianWalk b row com fuel (some l) (jv, jw)).1.getD col z = jv.getD col z ∧
        (a.jacobianWalk b row com fuel (some l) (jv, jw)).2.getD col z = jw.getD col z) ∧
      ∀ c (hc : c < (a.body b).joints.size),
        (a.jacobianWalk b row com fuel (some l) (jv, jw)).1.getD (row + c) z =
          (if a.Above b l (a.body b).joints[c] then (jointColumns (a.link (a.body b).joints[c]) com).1
           else jv.getD (row + c) z) ∧
        (a.jacobianWalk b row com fuel (some l) (jv, jw)).2.getD (row + c) z =
          (if a.Above b l (a.body b).joints[c] ∧ (a.link (a.body b).joints[c]).jointType == .revolute
           then (jointColumns (a.link (a.body b).joints[c]) com).2 else jw.getD (row + c) z) := by
  induction fuel with
  | zero => exact fun l hl hfuel => absurd hfuel (by have := h.index_nonneg hl; omega)
  | succ fuel ih =>
    intro l hl hfuel jv jw hv hw
    rw [jacobianWalk_succ row com fuel (h.body l hl)]
    -- the joint of `l` is written first, in its own column
    obtain ⟨hjframe, hjrow⟩ := h.getD_setJointColumns hl row com z jv jw hv hw
    obtain ⟨hs1, hs2⟩ := size_setJointColumns (a.link l) row com jv jw
    set j := setJointColumns (a.link l) row com jv jw
    by_cases hup : ∃ p, a.UpIn b l p
    · obtain ⟨p, hp⟩ := hup
      obtain ⟨hpm, hlt⟩ := h.upIn hr hl hp
      rw [hp.1]
      obtain ⟨ihf, ihr⟩ := ih p hpm (by omega) j.1 j.2 (by omega) (by omega)
      refine ⟨fun col hcol => ?_, fun c hc => ?_⟩
      · rw [(ihf col hcol).1, (ihf col hcol).2]
        exact hjframe col hcol
      · rw [(ihr c hc).1, (ihr c hc).2, (hjrow c hc).1, (hjrow c hc).2, above_iff_of_upIn hp]
        by_cases hpa : a.Above b p (a.body b).joints[c]
        · have hne : (a.body b).joints[c] ≠ l := fun he => by
            have := (h.above hr hpm (he ▸ hpa)).2
            omega
          simp [hpa, hne]
        · by_cases he : (a.body b).joints[c] = l
          · have hpl : ¬ a.Above b p l := he ▸ hpa
            simp [hpl, he]
          · simp [hpa, he]
    · rw [jacobianWalk_stop row com fuel (fun p hp hb => hup ⟨p, hp, hb⟩)]
      refine ⟨hjframe, fun c hc => ?_⟩
      rw [(hjrow c hc).1, (hjrow c hc).2, above_iff_of_top hup]
      by_cases he : (a.body b).joints[c] = l <;> simp [he]

open scoped Classical in
theorem foldl_jacobianWalk (z : Vec3) (m : Nat) (hm : m ≤ (a.body b).links.size) :
    let n := (a.body b).joints.size
    let L := (a.body b).links
    let F := (List.range m).foldl (fun j li =>
      a.jacobianWalk b (li * n) (a.link L[li]!).worldCom (a.links.size + 1) (some L[li]!) j)
      (Array.replicate (L.size * n) Vec3.zero, Array.replicate (L.size * n) Vec3.zero)
    F.1.size = L.size * n ∧ F.2.size = L.size * n ∧
      ∀ li (hli : li < L.size) c (hc : c < n),
        F.1.getD (li * n + c) z = (if li < m ∧ a.Above b L[li] (a.body b).joints[c] then
          (jointColumns (a.link (a.body b).joints[c]) (a.link L[li]).worldCom).1 else Vec3.zero) ∧
        F.2.getD (li * n + c) z = (if li < m ∧ a.Above b L[li] (a.body b).joints[c] ∧
            (a.link (a.body b).joints[c]).jointType == .revolute then
          (jointColumns (a.link (a.body b).joints[c]) (a.link L[li]).worldCom).2 else Vec3.zero) := by
  intro n L
  have hmL : m ≤ L.size := hm
  have hend : ∀ li, li < L.size → li * n + n ≤ L.size * n := fun li hli => by
    have := Nat.mul_le_mul_right n (Nat.succ_le_of_lt hli)
    rwa [Nat.succ_mul] at this
  have hrow : ∀ li, li < L.size → ∀ c, c < n → li * n + c < L.size * n := fun li hli c hc => by
    have := hend li hli
    omega
  induction m with
  | zero =>
    refine ⟨by simp, by simp, fun li hli c hc => ?_⟩
    simp [Array.getD_eq_getD_getElem?, hrow li hli c hc]
  | succ m ih =>
    obtain ⟨hs1, hs2, hval⟩ := ih (by omega) (by omega)
    simp only [List.range_succ, List.foldl_append, List.foldl_cons, List.foldl_nil]
    set F := (List.range m).foldl (fun j li =>
      a.jacobianWalk b (li * n) (a.link L[li]!).worldCom (a.links.size + 1) (some L[li]!) j)
      (Array.replicate (L.size * n) Vec3.zero, Array.replicate (L.size * n) Vec3.zero)
    have hmL : m < L.size := by omega
    have hget : L[m]! = L[m] := getElem!_pos L m hmL
    have hidx : (a.link L[m]).index < ((a.links.size + 1 : Nat) : Int) := by
      have hle := length_le_of_nodup h.nodup (fun l hl => h.lt_size_of_mem (Array.mem_toList_iff.1 hl))
      rw [h.index m hmL]
      simp only [Array.length_toList] at hle
      omega
    obtain ⟨wf, wr⟩ := jacobianWalk_getD h hr (m * n) (a.link L[m]).worldCom z (a.links.size + 1) L[m]
      (Array.getElem_mem hmL) hidx F.1 F.2 (by rw [hs1]; exact hend m hmL) (by rw [hs2]; exact hend m hmL)
    have hsize := size_jacobianWalk (a := a) (b := b) (m * n) (a.link L[m]).worldCom (a.links.size + 1) (some L[m]) F
    rw [hget]
    refine ⟨by rw [hsize.1, hs1], by rw [hsize.2, hs2], fun li hli c hc => ?_⟩
    by_cases hlm : li = m
    · subst hlm
      rw [(wr c hc).1, (wr c hc).2, (hval li hli c hc).1, (hval li hli c hc).2]
      simp
    · have hout := row_apart hlm hc
      rw [(wf _ hout).1, (wf _ hout).2, (hval li hli c hc).1, (hval li hli c hc).2]
      have hlt : li < m + 1 ↔ li < m := by omega
      simp only [hlt, and_self]

open scoped Classical in
/-- The Jacobian columns of an indexed body whose root hangs from no link of
its own: column `c` of link `li` is the column of the `c`-th actuated joint when
that joint is the link's or one above it in the body, and zero otherwise. -/
theorem jacobians_columns :
    (a.jacobians b (a.body b).joints.size).1.size = (a.body b).links.size * (a.body b).joints.size ∧
      (a.jacobians b (a.body b).joints.size).2.size = (a.body b).links.size * (a.body b).joints.size ∧
      ∀ li (hli : li < (a.body b).links.size) c (hc : c < (a.body b).joints.size),
        ((a.jacobians b (a.body b).joints.size).1[li * (a.body b).joints.size + c]!,
            (a.jacobians b (a.body b).joints.size).2[li * (a.body b).joints.size + c]!) =
          if a.Above b (a.body b).links[li] (a.body b).joints[c] then
            jointColumns (a.link (a.body b).joints[c]) (a.link (a.body b).links[li]).worldCom
          else (Vec3.zero, Vec3.zero) := by
  obtain ⟨hs1, hs2, hval⟩ := foldl_jacobianWalk h hr default (a.body b).links.size le_rfl
  refine ⟨hs1, hs2, fun li hli c hc => ?_⟩
  rw [Array.getElem!_eq_getD, Array.getElem!_eq_getD]
  unfold jacobians
  rw [(hval li hli c hc).1, (hval li hli c hc).2]
  by_cases habove : a.Above b (a.body b).links[li] (a.body b).joints[c]
  · -- a prismatic joint's angular column is zero
    by_cases hrev : ((a.link (a.body b).joints[c]).jointType == .revolute) = true
    · simp [hli, habove, hrev]
    · simp [hli, habove, hrev, jointColumns]
  · simp [habove]

end Walk

end Assembly

/-! ## The mass matrix and the accelerations over the reals -/

namespace Dynamics

theorem getD_addAt (xs : Array ℝ) {p : Nat} (hp : p < xs.size) (v : ℝ) (q : Nat) :
    (xs.set! p (xs[p]! + v)).getD q 0 = xs.getD q 0 + if p = q then v else 0 := by
  rw [getD_set!, Array.getElem!_eq_getD]
  by_cases hpq : p = q
  · subst hpq
    simp [hp]
  · simp [hpq]

theorem foldl_range_adds (n k : Nat) (step : Nat → Array ℝ → Array ℝ) (g : Nat → Nat → Nat → ℝ)
    (hstep : ∀ s m, s < k → m.size = n * n → (step s m).size = n * n ∧
      ∀ i j, i < n → j < n → (step s m).getD (i * n + j) 0 = m.getD (i * n + j) 0 + g s i j)
    (m : Array ℝ) (hm : m.size = n * n) :
    ((List.range k).foldl (fun m s => step s m) m).size = n * n ∧
      ∀ i j, i < n → j < n → ((List.range k).foldl (fun m s => step s m) m).getD (i * n + j) 0 =
        m.getD (i * n + j) 0 + ∑ s ∈ Finset.range k, g s i j := by
  induction k with
  | zero => exact ⟨hm, fun i j _ _ => by simp⟩
  | succ k ih =>
    obtain ⟨hs, hv⟩ := ih fun s m hs => hstep s m (by omega)
    rw [List.range_succ, List.foldl_append, List.foldl_cons, List.foldl_nil]
    obtain ⟨hs', hv'⟩ := hstep k _ (by omega) hs
    refine ⟨hs', fun i j hi hj => ?_⟩
    rw [hv' i j hi hj, hv i j hi hj, Finset.sum_range_succ, add_assoc]

theorem accumulateRow_getD (n r : Nat) (hr : r < n) (f : Nat → ℝ) (m : Array ℝ) (hm : m.size = n * n) :
    ((List.range n).foldl (fun mass c => mass.set! (r * n + c) (mass[r * n + c]! + f c)) m).size = n * n ∧
      ∀ i j, i < n → j < n →
        ((List.range n).foldl (fun mass c => mass.set! (r * n + c) (mass[r * n + c]! + f c)) m).getD (i * n + j) 0 =
          m.getD (i * n + j) 0 + if r = i then f j else 0 := by
  obtain ⟨hs, hv⟩ := foldl_range_adds n n (fun c mass => mass.set! (r * n + c) (mass[r * n + c]! + f c))
    (fun c i j => if r = i ∧ c = j then f c else 0) (fun c mass hc hmass => ⟨by rw [Array.size_set!, hmass],
      fun i j hi hj => by rw [getD_addAt _ (hmass ▸ index_lt hr hc)]; simp only [index_eq_iff hc hj]⟩) m hm
  refine ⟨hs, fun i j hi hj => ?_⟩
  rw [hv i j hi hj]
  -- only the pass over column `j` writes entry `(i, j)`
  by_cases hri : r = i
  · simp [hri, hj]
  · simp [hri]

theorem accumulateRows_getD (n : Nat) (f : Nat → Nat → ℝ) (m : Array ℝ) (hm : m.size = n * n) :
    ((List.range n).foldl (fun mass r => (List.range n).foldl (fun mass c =>
        mass.set! (r * n + c) (mass[r * n + c]! + f r c)) mass) m).size = n * n ∧
      ∀ i j, i < n → j < n →
        ((List.range n).foldl (fun mass r => (List.range n).foldl (fun mass c =>
            mass.set! (r * n + c) (mass[r * n + c]! + f r c)) mass) m).getD (i * n + j) 0 =
          m.getD (i * n + j) 0 + f i j := by
  obtain ⟨hs, hv⟩ := foldl_range_adds n n _ (fun r i j => if r = i then f r j else 0)
    (fun r mass hr hmass => accumulateRow_getD n r hr (f r) mass hmass) m hm
  refine ⟨hs, fun i j hi hj => ?_⟩
  rw [hv i j hi hj]
  simp [hi]

/-- Entry `(r, c)` of the share of link `li` in the mass matrix, with the
Jacobian columns of the link `n` to a row. -/
def linkEntry (n : Nat) (links : Array (LinkFrame ℝ)) (jv jw : Array (Vec3 ℝ)) (li r c : Nat) : ℝ :=
  links[li]!.mass * jv[li * n + r]!.dot jv[li * n + c]! +
    jw[li * n + r]!.dot (((links[li]!.rotation.mul links[li]!.inertia).mul links[li]!.rotation.transpose).apply jw[li * n + c]!)

theorem massMatrix_getD (n : Nat) (links : Array (LinkFrame ℝ)) (jv jw : Array (Vec3 ℝ)) {i j : Nat}
    (hi : i < n) (hj : j < n) :
    (massMatrix n links jv jw).getD (i * n + j) 0 = ∑ li ∈ Finset.range links.size, linkEntry n links jv jw li i j := by
  obtain ⟨-, hv⟩ := foldl_range_adds n links.size _ (linkEntry n links jv jw)
    (fun li mass _ hmass => accumulateRows_getD n (linkEntry n links jv jw li) mass hmass)
    (Array.replicate (n * n) 0.0) (by simp)
  have hzero : (Array.replicate (n * n) (0.0 : ℝ)).getD (i * n + j) 0 = 0 := by
    simp [Array.getD_eq_getD_getElem?, index_lt hi hj, ofScientific_zero]
  have hij := hv i j hi hj
  rw [hzero, zero_add] at hij
  exact hij

/-- The `3 × n` matrix whose column `c` is entry `row + c` of `js`. -/
def columns (js : Array (Vec3 ℝ)) (row n : Nat) : Matrix (Fin 3) (Fin n) ℝ :=
  Matrix.of fun i c => (js[row + c]!).toFun i

theorem linkEntry_eq (n : Nat) (links : Array (LinkFrame ℝ)) (jv jw : Array (Vec3 ℝ)) (li : Nat) :
    Matrix.of (fun r c : Fin n => linkEntry n links jv jw li r c) =
      links[li]!.mass • ((columns jv (li * n) n)ᵀ * columns jv (li * n) n) +
        (columns jw (li * n) n)ᵀ * (links[li]!.rotation.toMatrix * links[li]!.inertia.toMatrix *
          links[li]!.rotation.toMatrixᵀ) * columns jw (li * n) n := by
  -- entry `(r, c)` of `Jᵀ A J` is column `r` of `J` against `A` times column `c`
  ext r c
  rw [Matrix.mul_assoc (columns jw (li * n) n)ᵀ]
  simp only [linkEntry, Vec3.dot_eq_dotProduct, Mat3.toFun_apply, Mat3.toMatrix_mul, Mat3.toMatrix_transpose]
  rfl

theorem massMatrix_eq_sum (n : Nat) (links : Array (LinkFrame ℝ)) (jv jw : Array (Vec3 ℝ)) :
    rowMajor (massMatrix n links jv jw) n = ∑ li ∈ Finset.range links.size,
      (links[li]!.mass • ((columns jv (li * n) n)ᵀ * columns jv (li * n) n) +
        (columns jw (li * n) n)ᵀ * (links[li]!.rotation.toMatrix * links[li]!.inertia.toMatrix *
          links[li]!.rotation.toMatrixᵀ) * columns jw (li * n) n) := by
  ext i j
  rw [rowMajor_apply, Matrix.sum_apply]
  calc (massMatrix n links jv jw).getD (i * n + j) 0
      = ∑ li ∈ Finset.range links.size, linkEntry n links jv jw li i j := massMatrix_getD n links jv jw i.2 j.2
    _ = _ := Finset.sum_congr rfl fun li _ => by rw [← linkEntry_eq]; rfl

theorem massMatrix_posSemidef (n : Nat) (links : Array (LinkFrame ℝ)) (jv jw : Array (Vec3 ℝ))
    (h : ∀ l ∈ links, 0 ≤ l.mass ∧ l.inertia.toMatrix.PosSemidef) :
    (rowMajor (massMatrix n links jv jw) n).PosSemidef := by
  rw [massMatrix_eq_sum]
  refine Matrix.posSemidef_sum _ fun li hli => ?_
  have hmem : links[li]! ∈ links := by
    rw [getElem!_pos links li (Finset.mem_range.1 hli)]
    exact Array.getElem_mem _
  obtain ⟨hm, hI⟩ := h _ hmem
  -- over the reals the conjugate transpose is the transpose
  have hv := Matrix.posSemidef_conjTranspose_mul_self (columns jv (li * n) n)
  have hw := (hI.mul_mul_conjTranspose_same links[li]!.rotation.toMatrix).conjTranspose_mul_mul_same
    (columns jw (li * n) n)
  rw [Matrix.conjTranspose_eq_transpose_of_trivial] at hv
  rw [Matrix.conjTranspose_eq_transpose_of_trivial, Matrix.conjTranspose_eq_transpose_of_trivial] at hw
  exact (hv.smul hm).add hw

theorem accelerations_spec (mass rhs : Array ℝ) (n : Nat) (hm : mass.size = n * n) (hr : rhs.size = n) :
    ∃ r, solve mass rhs n = .ok r ∧
      (∀ x, r = some x → accelerations mass rhs n = x ∧ rowMajor mass n *ᵥ entries x n = entries rhs n) ∧
      (r = none → accelerations mass rhs n = Array.replicate n 0) := by
  obtain ⟨r, hs, -, -, hsome⟩ := solve_spec mass rhs n hm hr
  refine ⟨r, hs, fun x hx => ?_, fun hx => ?_⟩
  · subst hx
    exact ⟨by simp [accelerations, hs], (hsome x rfl).2.1⟩
  · subst hx
    simp [accelerations, hs, ofScientific_zero]

open scoped Classical in
/-- The joint-space equations of motion of a body.  On an indexed body whose
root hangs from no link of its own, the Jacobian columns of link `li` for the
`c`-th actuated joint are that joint's columns when it is the link's own or
above it in the body, and zero otherwise.  Over the reals, the mass matrix
assembled from any columns is `Σ m Jvᵀ Jv + Jwᵀ (R I Rᵀ) Jw` over the links,
symmetric and positive semidefinite when every mass is non-negative and every
inertia positive semidefinite; and elimination never faults, the
accelerations solving `M ddq = rhs` whenever it answers and being zero for
every joint when it refuses. -/
theorem jointSpace_equations :
    (∀ (a : Assembly) (b : BodyId) (t : LinkTree), a.Indexed b t → a.isBodyRoot (a.link t.root) = true →
      (a.jacobians b (a.body b).joints.size).1.size = (a.body b).links.size * (a.body b).joints.size ∧
      (a.jacobians b (a.body b).joints.size).2.size = (a.body b).links.size * (a.body b).joints.size ∧
      ∀ li (hli : li < (a.body b).links.size) c (hc : c < (a.body b).joints.size),
        ((a.jacobians b (a.body b).joints.size).1[li * (a.body b).joints.size + c]!,
            (a.jacobians b (a.body b).joints.size).2[li * (a.body b).joints.size + c]!) =
          if a.Above b (a.body b).links[li] (a.body b).joints[c] then
            Assembly.jointColumns (a.link (a.body b).joints[c]) (a.link (a.body b).links[li]).worldCom
          else (Vec3.zero, Vec3.zero)) ∧
    (∀ (n : Nat) (links : Array (LinkFrame ℝ)) (jv jw : Array (Vec3 ℝ)),
      rowMajor (massMatrix n links jv jw) n = ∑ li ∈ Finset.range links.size,
        (links[li]!.mass • ((columns jv (li * n) n)ᵀ * columns jv (li * n) n) +
          (columns jw (li * n) n)ᵀ * (links[li]!.rotation.toMatrix * links[li]!.inertia.toMatrix *
            links[li]!.rotation.toMatrixᵀ) * columns jw (li * n) n) ∧
      ((∀ l ∈ links, 0 ≤ l.mass ∧ l.inertia.toMatrix.PosSemidef) →
        (rowMajor (massMatrix n links jv jw) n).IsSymm ∧ (rowMajor (massMatrix n links jv jw) n).PosSemidef)) ∧
    (∀ (mass rhs : Array ℝ) (n : Nat), mass.size = n * n → rhs.size = n →
      ∃ r, solve mass rhs n = .ok r ∧
        (∀ x, r = some x → accelerations mass rhs n = x ∧ rowMajor mass n *ᵥ entries x n = entries rhs n) ∧
        (r = none → accelerations mass rhs n = Array.replicate n 0)) := by
  refine ⟨fun a b t h hr => Assembly.jacobians_columns h hr,
    fun n links jv jw => ⟨massMatrix_eq_sum n links jv jw, fun hl => ?_⟩,
    fun mass rhs n hm hr => accelerations_spec mass rhs n hm hr⟩
  -- symmetry is the hermitian half of semidefiniteness
  have hpsd := massMatrix_posSemidef n links jv jw hl
  exact ⟨Matrix.isHermitian_iff_isSymm.mp hpsd.isHermitian, hpsd⟩

end Dynamics

end Multibody
