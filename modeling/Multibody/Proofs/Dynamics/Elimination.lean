import Multibody.Dynamics.JointSpace
import Mathlib

/-!
# Gaussian elimination in exact arithmetic

`Dynamics.solve` run on an ordered field, where every operation is exact,
through the views `rowMajor` and `entries`.  It never reads or writes
outside the arrays, refuses exactly at a column with no pivot of magnitude
`1e-12` (so always on a singular matrix), and otherwise answers the one
solution (`solve_spec`).  Each step has one lemma: a row swap permutes the
equations, a row subtraction is `Matrix.updateRow`, and neither changes the
solutions (`Reduced`); back substitution solves what remains.
-/

namespace Multibody.Dynamics

/-- Ordered numbers take their absolute value as magnitude. -/
instance {α : Type} [Lattice α] [AddGroup α] : Magnitude α := ⟨fun x => |x|⟩

@[simp] theorem Magnitude.abs_eq {α : Type} [Lattice α] [AddGroup α] (x : α) : Magnitude.abs x = |x| := rfl

/-! ## Checked access and folds in `Except` -/

section Access

variable {α : Type}

theorem at_of_lt {xs : Array α} {i : Nat} (d : α) (h : i < xs.size) :
    Fault.at xs i = .ok (xs.getD i d) := by
  simp [Fault.at, h, Array.getD_eq_getD_getElem?]

theorem put_of_lt {xs : Array α} {i : Nat} (v : α) (h : i < xs.size) :
    Fault.put xs i v = .ok (xs.set i v h) := dif_pos h

theorem ok_bind {β ε : Type} (x : α) (f : α → Except ε β) : (Except.ok x >>= f) = f x := rfl

theorem getD_set {xs : Array α} {i : Nat} {v : α} (h : i < xs.size) (j : Nat) (d : α) :
    (xs.set i v h).getD j d = if i = j then v else xs.getD j d := by
  simp only [Array.getD_eq_getD_getElem?, Array.getElem?_set]
  split <;> rfl

theorem foldlM_range'_inv {σ ε : Type} (I : Nat → σ → Prop) (f : σ → Nat → Except ε σ)
    (s len : Nat) (x : σ) (h0 : I s x)
    (hstep : ∀ k y, s ≤ k → k < s + len → I k y → ∃ y', f y k = .ok y' ∧ I (k + 1) y') :
    ∃ y, (List.range' s len).foldlM f x = .ok y ∧ I (s + len) y := by
  induction len generalizing s x with
  | zero => exact ⟨x, rfl, h0⟩
  | succ len ih =>
    obtain ⟨y', hy', hI⟩ := hstep s x le_rfl (by omega) h0
    obtain ⟨y, hy, hIy⟩ := ih (s + 1) y' hI
      (fun k y hk hk' hIk => hstep k y (by omega) (by omega) hIk)
    refine ⟨y, ?_, by rwa [show s + (len + 1) = s + 1 + len by omega]⟩
    rw [List.range'_succ, List.foldlM_cons, hy']
    exact hy

end Access

/-! ## Row-major indices -/

theorem index_lt {n r c : Nat} (hr : r < n) (hc : c < n) : r * n + c < n * n := by
  calc r * n + c < r * n + n := by omega
    _ = (r + 1) * n := by ring
    _ ≤ n * n := Nat.mul_le_mul_right n hr

theorem index_inj {n r c r' c' : Nat} (hc : c < n) (hc' : c' < n) (h : r * n + c = r' * n + c') :
    r = r' ∧ c = c' := by
  -- the row is read back by division and the column by the remainder
  have hread : ∀ r c, c < n → (r * n + c) / n = r ∧ (r * n + c) % n = c := fun r c hc =>
    ⟨by rw [Nat.add_comm, Nat.add_mul_div_right _ _ (by omega), Nat.div_eq_of_lt hc, Nat.zero_add],
      by rw [Nat.add_comm, Nat.add_mul_mod_self_right, Nat.mod_eq_of_lt hc]⟩
  obtain ⟨hq, hm⟩ := hread r c hc
  obtain ⟨hq', hm'⟩ := hread r' c' hc'
  exact ⟨hq.symm.trans (h ▸ hq'), hm.symm.trans (h ▸ hm')⟩

/-! ## The arrays as a linear system -/

/-- The matrix a row-major array of side `n` holds. -/
def rowMajor {α : Type} [Zero α] (a : Array α) (n : Nat) : Matrix (Fin n) (Fin n) α :=
  Matrix.of fun i j => a.getD (i * n + j) 0

/-- The vector the first `n` entries of an array hold. -/
def entries {α : Type} [Zero α] (b : Array α) (n : Nat) : Fin n → α := fun i => b.getD i 0

@[simp] theorem rowMajor_apply {α : Type} [Zero α] (a : Array α) (n : Nat) (i j : Fin n) :
    rowMajor a n i j = a.getD (i * n + j) 0 := rfl

@[simp] theorem entries_apply {α : Type} [Zero α] (b : Array α) (n : Nat) (i : Fin n) : entries b n i = b.getD i 0 := rfl

variable {n : Nat} {α : Type} [Field α]

theorem solutions_permute (A : Matrix (Fin n) (Fin n) α) (v : Fin n → α) (σ : Equiv.Perm (Fin n))
    (x : Fin n → α) : (A.submatrix σ id).mulVec x = v ∘ σ ↔ A.mulVec x = v := by
  constructor
  · intro h
    funext i
    simpa [Matrix.mulVec, dotProduct] using congrFun h (σ.symm i)
  · intro h
    funext i
    simpa [Matrix.mulVec, dotProduct] using congrFun h (σ i)

theorem solutions_subtract (A : Matrix (Fin n) (Fin n) α) (v : Fin n → α) {r c : Fin n} (hrc : r ≠ c)
    (f : α) (x : Fin n → α) :
    (A.updateRow r (A r - f • A c)).mulVec x = Function.update v r (v r - f * v c) ↔
      A.mulVec x = v := by
  have hrow : ∀ i, (A.updateRow r (A r - f • A c)).mulVec x i =
      if i = r then A.mulVec x r - f * A.mulVec x c else A.mulVec x i := by
    intro i
    by_cases hi : i = r
    · subst hi
      simp [Matrix.mulVec, dotProduct, Finset.sum_sub_distrib, Finset.mul_sum, sub_mul, mul_assoc]
    · simp [Matrix.mulVec, dotProduct, hi]
  constructor
  · intro h
    have hc : A.mulVec x c = v c := by
      simpa [hrow, Ne.symm hrc, Function.update_of_ne (Ne.symm hrc)] using congrFun h c
    funext i
    have hi := congrFun h i
    rw [hrow] at hi
    by_cases hir : i = r
    · subst hir
      simp only [if_true, Function.update_self, hc] at hi
      linear_combination hi
    · simpa [hir, Function.update_of_ne hir] using hi
  · intro h
    funext i
    rw [hrow, h]
    by_cases hir : i = r
    · subst hir
      simp
    · simp [hir]

/-! ## One lemma per step of the elimination -/

variable {a b : Array α} {col : Nat}

theorem pivotRow_spec [LinearOrder α] (ha : a.size = n * n) (hc : col < n) :
    ∃ p, pivotRow a n col = .ok (p, |a.getD (p * n + col) 0|) ∧ col ≤ p ∧ p < n ∧
      ∀ r, col ≤ r → r < n → |a.getD (r * n + col) 0| ≤ |a.getD (p * n + col) 0| := by
  have hat : ∀ r, r < n → Fault.at a (r * n + col) = .ok (a.getD (r * n + col) 0) :=
    fun r hr => at_of_lt 0 (ha ▸ index_lt hr hc)
  -- after the rows `col ..< k`: the best row so far, with its magnitude
  obtain ⟨pb, hpb, hval, hlo, hhi, hmax⟩ := foldlM_range'_inv
    (fun k (pb : Nat × α) => pb.2 = |a.getD (pb.1 * n + col) 0| ∧ col ≤ pb.1 ∧ pb.1 < k ∧
      ∀ r, col ≤ r → r < k → |a.getD (r * n + col) 0| ≤ pb.2)
    (fun pb r => do
      let v := Magnitude.abs (← Fault.at a (r * n + col))
      return if v > pb.2 then (r, v) else pb)
    (col + 1) (n - (col + 1)) (col, |a.getD (col * n + col) 0|)
    ⟨rfl, le_rfl, by omega, fun r h₁ h₂ => by rw [show r = col by omega]⟩
    (fun k pb hk₁ hk₂ hI => by
      obtain ⟨hv, hl, hh, hm⟩ := hI
      rw [hat k (by omega)]
      refine ⟨_, rfl, ?_⟩
      by_cases hgt : Magnitude.abs (a.getD (k * n + col) 0) > pb.2
      · rw [if_pos hgt]
        refine ⟨rfl, by omega, by omega, fun r h₁ h₂ => ?_⟩
        rcases Nat.lt_or_ge r k with hr | hr
        · exact (hm r h₁ hr).trans hgt.le
        · rw [show r = k by omega]
          exact le_rfl
      · rw [if_neg hgt]
        refine ⟨hv, hl, by omega, fun r h₁ h₂ => ?_⟩
        rcases Nat.lt_or_ge r k with hr | hr
        · exact hm r h₁ hr
        · rw [show r = k by omega]
          exact not_lt.1 hgt)
  have hn : col + 1 + (n - (col + 1)) = n := by omega
  rw [hn] at hhi hmax
  refine ⟨pb.1, ?_, hlo, hhi, fun r h₁ h₂ => hval ▸ hmax r h₁ h₂⟩
  unfold pivotRow
  rw [hat col hc]
  exact hpb.trans (congrArg Except.ok (Prod.ext rfl hval))

theorem index_eq_iff {r c r' c' : Nat} (hc : c < n) (hc' : c' < n) :
    r * n + c = r' * n + c' ↔ r = r' ∧ c = c' :=
  ⟨index_inj hc hc', fun h => by rw [h.1, h.2]⟩

theorem swap_val {i j : Nat} (hi : i < n) (hj : j < n) (r : Fin n) :
    ((Equiv.swap (⟨i, hi⟩ : Fin n) ⟨j, hj⟩ r : Fin n) : Nat) =
      if i = r then j else if j = r then i else r := by
  simp only [Equiv.swap_apply_def, Fin.ext_iff, apply_ite Fin.val]
  split_ifs <;> omega

theorem swapRows_spec (ha : a.size = n * n) {i j : Nat} (hi : i < n) (hj : j < n) :
    ∃ a', swapRows a n i j = .ok a' ∧ a'.size = n * n ∧
      rowMajor a' n = (rowMajor a n).submatrix (Equiv.swap ⟨i, hi⟩ ⟨j, hj⟩) id := by
  -- after the columns `0 ..< k`: those columns exchanged, the others as they were
  let sw : Nat → Nat := fun r => if i = r then j else if j = r then i else r
  obtain ⟨a', ha', hsize, hent⟩ := foldlM_range'_inv
    (fun k (x : Array α) => x.size = n * n ∧ ∀ r c, r < n → c < n →
      x.getD (r * n + c) 0 = if c < k then a.getD (sw r * n + c) 0 else a.getD (r * n + c) 0)
    (fun a c => do
      let x ← Fault.at a (i * n + c)
      let y ← Fault.at a (j * n + c)
      let a ← Fault.put a (i * n + c) y
      Fault.put a (j * n + c) x)
    0 n a ⟨ha, fun r c _ _ => by simp⟩
    (fun k x _ hk hI => by
      obtain ⟨hx, he⟩ := hI
      have hk' : k < n := by omega
      have hik : i * n + k < x.size := hx ▸ index_lt hi hk'
      have hjk : j * n + k < x.size := hx ▸ index_lt hj hk'
      rw [at_of_lt 0 hik, at_of_lt 0 hjk]
      have hjk' : j * n + k < (x.set (i * n + k) (x.getD (j * n + k) 0) hik).size := by
        rw [Array.size_set]; exact hjk
      refine ⟨(x.set _ _ hik).set (j * n + k) (x.getD (i * n + k) 0) hjk', ?_, ?_⟩
      · show (Fault.put x (i * n + k) _ >>= fun a => Fault.put a (j * n + k) _) = _
        rw [put_of_lt _ hik]
        exact put_of_lt _ hjk' 
      refine ⟨by simp [hx], fun r c hr hc => ?_⟩
      rw [getD_set, getD_set, he r c hr hc, he i k hi hk', he j k hj hk']
      simp only [index_eq_iff hk' hc]
      by_cases hck : c = k
      · subst hck
        by_cases hjr : j = r <;> by_cases hir : i = r <;> simp_all [sw]
      · have hlt : c < k + 1 ↔ c < k := by omega
        simp [Ne.symm hck, hlt])
  refine ⟨a', ?_, hsize, ?_⟩
  · unfold swapRows
    rw [List.range_eq_range']
    exact ha'
  · ext r c
    simp only [rowMajor_apply, Matrix.submatrix_apply, id, swap_val]
    rw [hent r c r.2 c.2, if_pos (by omega)]

theorem swapEntries_spec (hb : b.size = n) {i j : Nat} (hi : i < n) (hj : j < n) :
    ∃ b', swapEntries b i j = .ok b' ∧ b'.size = n ∧
      entries b' n = entries b n ∘ Equiv.swap ⟨i, hi⟩ ⟨j, hj⟩ := by
  have hi' : i < b.size := hb ▸ hi
  have hj' : j < (b.set i (b.getD j 0) hi').size := by rw [Array.size_set]; omega
  refine ⟨(b.set i _ hi').set j (b.getD i 0) hj', ?_, by simp [hb], ?_⟩
  · unfold swapEntries
    rw [at_of_lt 0 hi', at_of_lt 0 (hb ▸ hj)]
    show (Fault.put b i _ >>= fun b => Fault.put b j _) = _
    rw [put_of_lt _ hi']
    exact put_of_lt _ hj'
  · funext r
    simp only [entries_apply, Function.comp_apply, swap_val, getD_set]
    split_ifs <;> simp_all

theorem entries_set {i : Nat} {v : α} (h : i < b.size) (hi : i < n) :
    entries (b.set i v h) n = Function.update (entries b n) ⟨i, hi⟩ v := by
  funext r
  simp only [entries_apply, getD_set, Function.update_apply, Fin.ext_iff]
  split_ifs <;> first | rfl | omega

theorem subtractRow_spec (ha : a.size = n * n) {r : Nat} (hr : r < n) (hc : col < n)
    (hrc : r ≠ col) (hz : ∀ c, c < col → a.getD (col * n + c) 0 = 0) (f : α) :
    ∃ a', subtractRow a n col r f = .ok a' ∧ a'.size = n * n ∧
      rowMajor a' n = (rowMajor a n).updateRow ⟨r, hr⟩
        (rowMajor a n ⟨r, hr⟩ - f • rowMajor a n ⟨col, hc⟩) := by
  -- after the columns `col ..< k`: those entries of row `r` reduced
  obtain ⟨a', ha', hsize, hent⟩ := foldlM_range'_inv
    (fun k (x : Array α) => x.size = n * n ∧ ∀ r' c, r' < n → c < n →
      x.getD (r' * n + c) 0 = if r = r' ∧ col ≤ c ∧ c < k then
        a.getD (r * n + c) 0 - f * a.getD (col * n + c) 0 else a.getD (r' * n + c) 0)
    (fun a c => do
      let x ← Fault.at a (r * n + c)
      let y ← Fault.at a (col * n + c)
      Fault.put a (r * n + c) (x - f * y))
    col (n - col) a ⟨ha, fun r' c _ _ => by rw [if_neg (by omega)]⟩
    (fun k x hk₁ hk₂ hI => by
      obtain ⟨hx, he⟩ := hI
      have hk : k < n := by omega
      have hrk : r * n + k < x.size := hx ▸ index_lt hr hk
      rw [at_of_lt 0 hrk, at_of_lt 0 (hx ▸ index_lt hc hk)]
      refine ⟨x.set (r * n + k) _ hrk, put_of_lt _ hrk, by simp [hx], fun r' c hr' hc' => ?_⟩
      rw [getD_set, he r' c hr' hc', he r k hr hk, he col k hc hk]
      simp only [index_eq_iff hk hc']
      by_cases hkc : r = r' ∧ k = c
      · obtain ⟨rfl, rfl⟩ := hkc
        simp [hrc, hk₁]
      · have hcond : (r = r' ∧ col ≤ c ∧ c < k + 1) ↔ (r = r' ∧ col ≤ c ∧ c < k) := by
          constructor <;> rintro ⟨h₁, h₂, h₃⟩ <;> refine ⟨h₁, h₂, ?_⟩
          · have := fun h => hkc ⟨h₁, h⟩
            omega
          · omega
        rw [if_neg hkc]
        simp only [hcond])
  refine ⟨a', ha', hsize, ?_⟩
  ext r' c
  rw [rowMajor_apply, hent r' c r'.2 c.2, Matrix.updateRow_apply]
  by_cases hr' : r' = ⟨r, hr⟩
  · subst hr'
    by_cases hcc : col ≤ c
    · rw [if_pos ⟨rfl, hcc, by omega⟩, if_pos rfl]
      simp
    · rw [if_neg (by omega), if_pos rfl]
      simp [hz c (by omega)]
  · have hne : r ≠ r' := fun h => hr' (Fin.ext h.symm)
    rw [if_neg (by tauto), if_neg hr', rowMajor_apply]

theorem getD_of_updateRow {a a' : Array α} {r : Nat} (hr : r < n) {v : Fin n → α}
    (h : rowMajor a' n = (rowMajor a n).updateRow ⟨r, hr⟩ v) {i c : Nat} (hi : i < n)
    (hc : c < n) : a'.getD (i * n + c) 0 = if i = r then v ⟨c, hc⟩ else a.getD (i * n + c) 0 := by
  have hic := congrFun₂ h ⟨i, hi⟩ ⟨c, hc⟩
  simp only [rowMajor_apply, Matrix.updateRow_apply, Fin.mk.injEq] at hic
  exact hic

variable [LinearOrder α] [IsStrictOrderedRing α]

theorem ofScientific_zero : (0.0 : α) = 0 := by norm_num

theorem ofScientific_one : (1.0 : α) = 1 := by norm_num

theorem eliminateBelow_spec (ha : a.size = n * n) (hb : b.size = n) (hc : col < n)
    (hp : a.getD (col * n + col) 0 ≠ 0)
    (hz : ∀ r c, col ≤ r → r < n → c < col → a.getD (r * n + c) 0 = 0) :
    ∃ a' b', eliminateBelow a b n col = .ok (a', b') ∧ a'.size = n * n ∧ b'.size = n ∧
      (∀ r c, r ≤ col → c < n → a'.getD (r * n + c) 0 = a.getD (r * n + c) 0) ∧
      (∀ r c, col < r → r < n → c ≤ col → a'.getD (r * n + c) 0 = 0) ∧
      ∀ x, (rowMajor a' n).mulVec x = entries b' n ↔ (rowMajor a n).mulVec x = entries b n := by
  -- after the rows `col + 1 ..< k`: those cleared, the others as they were
  obtain ⟨ab, hab, hsa, hsb, hkeep, hzero, hsol⟩ := foldlM_range'_inv
    (fun k (ab : Array α × Array α) => ab.1.size = n * n ∧ ab.2.size = n ∧
      (∀ r c, (r ≤ col ∨ k ≤ r) → r < n → c < n →
        ab.1.getD (r * n + c) 0 = a.getD (r * n + c) 0) ∧
      (∀ r c, col < r → r < k → c ≤ col → ab.1.getD (r * n + c) 0 = 0) ∧
      ∀ x, (rowMajor ab.1 n).mulVec x = entries ab.2 n ↔ (rowMajor a n).mulVec x = entries b n)
    (fun ab r => do
      let f := (← Fault.at ab.1 (r * n + col)) * (1.0 / a.getD (col * n + col) 0)
      if f == 0.0 then return ab
      let a ← subtractRow ab.1 n col r f
      let br ← Fault.at ab.2 r
      let bc ← Fault.at ab.2 col
      let b ← Fault.put ab.2 r (br - f * bc)
      return (a, b))
    (col + 1) (n - (col + 1)) (a, b)
    ⟨ha, hb, fun _ _ _ _ _ => rfl, fun r c h₁ h₂ _ => absurd h₂ (by omega), fun _ => Iff.rfl⟩
    (fun k ab hk₁ hk₂ hI => by
      obtain ⟨hsa, hsb, hkeep, hzero, hsol⟩ := hI
      have hk : k < n := by omega
      -- row `k` is still the input's, zero left of `col`
      have hrowk : ∀ c, c < n → ab.1.getD (k * n + c) 0 = a.getD (k * n + c) 0 :=
        fun c hc' => hkeep k c (Or.inr le_rfl) hk hc'
      have hleft : ∀ c, c < col → ab.1.getD (k * n + c) 0 = 0 := fun c hc' => by
        rw [hrowk c (by omega)]; exact hz k c (by omega) hk hc'
      rw [at_of_lt 0 (hsa ▸ index_lt hk hc), ok_bind, hrowk col hc]
      by_cases hf : a.getD (k * n + col) 0 * (1.0 / a.getD (col * n + col) 0) = 0
      · -- a zero factor: the entry below the pivot is zero already
        have hkc : a.getD (k * n + col) 0 = 0 := by
          rw [ofScientific_one, one_div, mul_eq_zero, inv_eq_zero] at hf
          exact hf.resolve_right hp
        rw [if_pos (beq_iff_eq.mpr (hf.trans ofScientific_zero.symm))]
        refine ⟨ab, rfl, hsa, hsb, fun r c h₁ h₂ h₃ => hkeep r c (by omega) h₂ h₃,
          fun r c h₁ h₂ h₃ => ?_, hsol⟩
        rcases Nat.lt_or_ge r k with hr | hr
        · exact hzero r c h₁ hr h₃
        · rw [show r = k by omega]
          rcases Nat.lt_or_ge c col with hc' | hc'
          · exact hleft c hc'
          · rw [show c = col by omega, hrowk col hc, hkc]
      · rw [if_neg (fun h => hf ((beq_iff_eq.mp h).trans ofScientific_zero))]
        set f := a.getD (k * n + col) 0 * (1.0 / a.getD (col * n + col) 0) with hf_def
        have hpiv : ∀ c, c < n → ab.1.getD (col * n + c) 0 = a.getD (col * n + c) 0 :=
          fun c hc' => hkeep col c (Or.inl le_rfl) hc hc'
        obtain ⟨a', hsub, ha', hM⟩ := subtractRow_spec hsa hk hc (by omega)
          (fun c hc' => by rw [hpiv c (by omega)]; exact hz col c le_rfl hc hc') f
        have hkb : k < ab.2.size := by omega
        rw [hsub, ok_bind, at_of_lt 0 hkb, ok_bind, at_of_lt 0 (hsb ▸ hc), ok_bind,
          put_of_lt _ hkb, ok_bind]
        refine ⟨_, rfl, ha', by simp [hsb], fun r c h₁ h₂ h₃ => ?_, fun r c h₁ h₂ h₃ => ?_,
          fun x => ?_⟩
        · rw [getD_of_updateRow hk hM h₂ h₃, if_neg (by omega)]
          exact hkeep r c (by omega) h₂ h₃
        · rw [getD_of_updateRow hk hM (by omega) (by omega)]
          split_ifs with hrk
          · subst hrk
            simp only [Pi.sub_apply, Pi.smul_apply, rowMajor_apply, smul_eq_mul]
            rcases Nat.lt_or_ge c col with hc' | hc'
            · rw [hleft c hc', hpiv c (by omega), hz col c le_rfl hc hc', mul_zero, sub_zero]
            · rw [show c = col by omega, hrowk col hc, hpiv col hc, hf_def, ofScientific_one]
              field_simp
              ring
          · exact hzero r c h₁ (by omega) h₃
        · rw [hM, entries_set hkb hk, ← hsol x]
          exact solutions_subtract _ _ (fun h => by simp [Fin.ext_iff] at h; omega) f x)
  have hn : col + 1 + (n - (col + 1)) = n := by omega
  rw [hn] at hkeep hzero
  refine ⟨ab.1, ab.2, ?_, hsa, hsb, fun r c h₁ h₂ => hkeep r c (Or.inl h₁) (by omega) h₂,
    hzero, hsol⟩
  unfold eliminateBelow
  rw [at_of_lt 0 (ha ▸ index_lt hc hc), ok_bind]
  exact hab

omit [LinearOrder α] [IsStrictOrderedRing α] in
theorem getD_of_swap {a a₁ : Array α} {i j : Nat} (hi : i < n) (hj : j < n)
    (h : rowMajor a₁ n = (rowMajor a n).submatrix (Equiv.swap ⟨i, hi⟩ ⟨j, hj⟩) id)
    {r c : Nat} (hr : r < n) (hc : c < n) :
    a₁.getD (r * n + c) 0 = a.getD ((if i = r then j else if j = r then i else r) * n + c) 0 := by
  have hrc := congrFun₂ h ⟨r, hr⟩ ⟨c, hc⟩
  simp only [rowMajor_apply, Matrix.submatrix_apply, id, swap_val] at hrc
  exact hrc

theorem swap_index_bounds {col p r : Nat} (hcp : col ≤ p) (hp : p < n) (hr : r < n) :
    (r < col → (if col = r then p else if p = r then col else r) = r) ∧
    min col r ≤ (if col = r then p else if p = r then col else r) ∧
    (if col = r then p else if p = r then col else r) < n := by
  split_ifs <;> omega

/-! ## Forward elimination -/

/-- The first `k` columns of a row-major matrix are eliminated: their diagonal
entries are nonzero and everything below them is zero. -/
def Reduced (a : Array α) (n k : Nat) : Prop :=
  ∀ c, c < k → c < n → a.getD (c * n + c) 0 ≠ 0 ∧ ∀ r, c < r → r < n → a.getD (r * n + c) 0 = 0

theorem eliminateBelow_swapped {a₁ b₁ : Array α} {p : Nat} (ha₁ : a₁.size = n * n)
    (hb₁ : b₁.size = n) (hc : col < n) (hp : p < n) (hcp : col ≤ p)
    (hM : rowMajor a₁ n = (rowMajor a n).submatrix (Equiv.swap ⟨col, hc⟩ ⟨p, hp⟩) id)
    (hv : entries b₁ n = entries b n ∘ Equiv.swap ⟨col, hc⟩ ⟨p, hp⟩)
    (hred : Reduced a n col) (hpiv : a.getD (p * n + col) 0 ≠ 0) :
    ∃ a' b', eliminateBelow a₁ b₁ n col = .ok (a', b') ∧ a'.size = n * n ∧ b'.size = n ∧
      Reduced a' n (col + 1) ∧
      ∀ x, (rowMajor a' n).mulVec x = entries b' n ↔ (rowMajor a n).mulVec x = entries b n := by
  have hz₁ : ∀ r c, col ≤ r → r < n → c < col → a₁.getD (r * n + c) 0 = 0 := by
    intro r c h₁ h₂ h₃
    obtain ⟨-, hmin, hlt⟩ := swap_index_bounds hcp hp h₂
    rw [getD_of_swap hc hp hM h₂ (by omega)]
    exact (hred c h₃ (by omega)).2 _ (by omega) hlt
  have hp₁ : a₁.getD (col * n + col) 0 ≠ 0 := by
    rw [getD_of_swap hc hp hM hc hc, if_pos rfl]
    exact hpiv
  obtain ⟨a', b', he, ha', hb', hkeep, hzero, hsol⟩ := eliminateBelow_spec ha₁ hb₁ hc hp₁ hz₁
  refine ⟨a', b', he, ha', hb', fun c hc₁ hcn => ⟨?_, fun r hcr hr => ?_⟩, fun x => ?_⟩
  · rw [hkeep c c (by omega) hcn, getD_of_swap hc hp hM hcn hcn]
    rcases Nat.lt_or_ge c col with hlt | hge
    · rw [(swap_index_bounds hcp hp hcn).1 hlt]
      exact (hred c hlt hcn).1
    · rw [show c = col by omega, if_pos rfl]
      exact hpiv
  · rcases Nat.lt_or_ge col r with hlt | hge
    · exact hzero r c hlt hr (by omega)
    · obtain ⟨-, hmin, hlt⟩ := swap_index_bounds hcp hp hr
      rw [hkeep r c hge (by omega), getD_of_swap hc hp hM hr (by omega)]
      exact (hred c (by omega) hcn).2 _ (by omega) hlt
  · rw [hsol x, hM, hv]
    exact solutions_permute _ _ _ x

theorem pivotTolerance_pos : (0 : α) < pivotTolerance := by
  norm_num [pivotTolerance]

theorem eliminateColumn_spec (ha : a.size = n * n) (hb : b.size = n) (hc : col < n)
    (hred : Reduced a n col) :
    ∃ r, eliminateColumn n (a, b) col = .ok r ∧
      (r = none ↔ ∀ k, col ≤ k → k < n → |a.getD (k * n + col) 0| < pivotTolerance) ∧
      ∀ a' b', r = some (a', b') → a'.size = n * n ∧ b'.size = n ∧ Reduced a' n (col + 1) ∧
        ∀ x, (rowMajor a' n).mulVec x = entries b' n ↔
          (rowMajor a n).mulVec x = entries b n := by
  obtain ⟨p, hpiv, hlo, hhi, hmax⟩ := pivotRow_spec ha hc
  unfold eliminateColumn
  rw [hpiv, ok_bind]
  by_cases hsmall : |a.getD (p * n + col) 0| < pivotTolerance
  · rw [if_pos hsmall]
    exact ⟨none, rfl, iff_of_true rfl fun k h₁ h₂ => (hmax k h₁ h₂).trans_lt hsmall,
      fun _ _ h => nomatch h⟩
  rw [if_neg hsmall]
  have hpos : a.getD (p * n + col) 0 ≠ 0 := fun h => hsmall (by rw [h, abs_zero]; exact pivotTolerance_pos)
  -- the pivot row exchanged into place (nothing to exchange when it is there)
  obtain ⟨a', b', he, ha', hb', hred', hsol⟩ : ∃ a' b',
      (if (p != col) = true then do
          let a ← swapRows a n col p
          let b ← swapEntries b col p
          some <$> eliminateBelow a b n col
        else some <$> eliminateBelow a b n col) = .ok (some (a', b')) ∧
      a'.size = n * n ∧ b'.size = n ∧ Reduced a' n (col + 1) ∧
      ∀ x, (rowMajor a' n).mulVec x = entries b' n ↔ (rowMajor a n).mulVec x = entries b n := by
    by_cases hpc : p = col
    · subst hpc
      rw [if_neg (by simp)]
      obtain ⟨a', b', he, hrest⟩ := eliminateBelow_swapped ha hb hc hhi le_rfl
        (by rw [Equiv.swap_self]; rfl) (by rw [Equiv.swap_self]; rfl) hred hpos
      exact ⟨a', b', by rw [he]; rfl, hrest⟩
    · rw [if_pos (by simp [hpc])]
      obtain ⟨a₁, hsa, ha₁, hM⟩ := swapRows_spec ha hc hhi
      obtain ⟨b₁, hsb, hb₁, hv⟩ := swapEntries_spec hb hc hhi
      obtain ⟨a', b', he, hrest⟩ := eliminateBelow_swapped ha₁ hb₁ hc hhi hlo hM hv hred hpos
      exact ⟨a', b', by rw [hsa, ok_bind, hsb, ok_bind, he]; rfl, hrest⟩
  refine ⟨some (a', b'), he, iff_of_false (by simp) fun h => hsmall (h p hlo hhi), ?_⟩
  rintro a'' b'' h
  cases h
  exact ⟨ha', hb', hred', hsol⟩

omit [IsStrictOrderedRing α] in
theorem reduceColumns_succ (a b : Array α) (n k : Nat) :
    reduceColumns a b n (k + 1) = (reduceColumns a b n k >>= fun acc => match acc with
      | none => pure none
      | some ab => eliminateColumn n ab k) := by
  unfold reduceColumns
  rw [List.range_succ, List.foldlM_append]
  -- the last column's pass, case by case on what the earlier ones left
  refine congrArg _ (funext fun acc => ?_)
  cases acc <;> simp only [List.foldlM_cons, List.foldlM_nil, bind_pure]

theorem reduceColumns_spec (ha : a.size = n * n) (hb : b.size = n) {k : Nat} (hk : k ≤ n) :
    ∃ r, reduceColumns a b n k = .ok r ∧
      (r = none ↔ ∃ j < k, ∃ a' b', reduceColumns a b n j = .ok (some (a', b')) ∧
        ∀ i, j ≤ i → i < n → |a'.getD (i * n + j) 0| < pivotTolerance) ∧
      ∀ a' b', r = some (a', b') → a'.size = n * n ∧ b'.size = n ∧ Reduced a' n k ∧
        ∀ x, (rowMajor a' n).mulVec x = entries b' n ↔
          (rowMajor a n).mulVec x = entries b n := by
  induction k with
  | zero =>
    refine ⟨some (a, b), rfl, iff_of_false (by simp) (by simp), fun a' b' h => ?_⟩
    cases h
    exact ⟨ha, hb, fun c hc => absurd hc (by omega), fun _ => Iff.rfl⟩
  | succ k ih =>
    obtain ⟨r, hr, hnone, hsome⟩ := ih (by omega)
    rw [reduceColumns_succ, hr, ok_bind]
    cases r with
    | none =>
      -- refused at an earlier column already
      obtain ⟨j, hj, a', b', hj'⟩ := hnone.1 rfl
      exact ⟨none, rfl, iff_of_true rfl ⟨j, by omega, a', b', hj'⟩, fun _ _ h => nomatch h⟩
    | some ab =>
      obtain ⟨ha', hb', hred, hsol⟩ := hsome ab.1 ab.2 rfl
      obtain ⟨r', he, hnone', hsome'⟩ := eliminateColumn_spec ha' hb' (by omega) hred
      refine ⟨r', he, ?_, fun a' b' h => ?_⟩
      · rw [hnone']
        constructor
        · exact fun hsmall => ⟨k, by omega, ab.1, ab.2, hr, hsmall⟩
        · rintro ⟨j, hj, a', b', hj', hsmall⟩
          rcases Nat.lt_or_ge j k with hjk | hjk
          · -- a refusal before `k` would have left nothing at `k`
            exact absurd (hnone.2 ⟨j, hjk, a', b', hj', hsmall⟩) (by simp)
          · obtain rfl : j = k := by omega
            rw [hr] at hj'
            cases hj'
            exact hsmall
      · obtain ⟨h₁, h₂, h₃, h₄⟩ := hsome' a' b' h
        exact ⟨h₁, h₂, h₃, fun x => (h₄ x).trans (hsol x)⟩

theorem det_ne_zero_of_reduced (hred : Reduced a n n) : (rowMajor a n).det ≠ 0 := by
  rw [Matrix.det_of_isUpperTriangular]
  · exact Finset.prod_ne_zero_iff.mpr fun i _ => (hred i i.2 i.2).1
  · intro i j hij
    exact (hred j j.2 j.2).2 i hij i.2

/-! ## Back substitution -/

omit [LinearOrder α] [IsStrictOrderedRing α] in
theorem mulVec_upper {x : Array α} {r : Nat} (hr : r < n)
    (hz : ∀ c, c < r → a.getD (r * n + c) 0 = 0) :
    (rowMajor a n).mulVec (entries x n) ⟨r, hr⟩ = a.getD (r * n + r) 0 * x.getD r 0 +
      ∑ c ∈ Finset.Ico (r + 1) n, a.getD (r * n + c) 0 * x.getD c 0 := by
  have hsum : (rowMajor a n).mulVec (entries x n) ⟨r, hr⟩ =
      ∑ c ∈ Finset.range n, a.getD (r * n + c) 0 * x.getD c 0 := by
    simp only [Matrix.mulVec, dotProduct, rowMajor_apply, entries_apply]
    exact Fin.sum_univ_eq_sum_range (fun c => a.getD (r * n + c) 0 * x.getD c 0) n
  have hlow : ∑ c ∈ Finset.range r, a.getD (r * n + c) 0 * x.getD c 0 = 0 :=
    Finset.sum_eq_zero fun c hc => by rw [hz c (Finset.mem_range.mp hc), zero_mul]
  rw [hsum, ← Finset.sum_range_add_sum_Ico _ hr.le, hlow, zero_add,
    Finset.sum_eq_sum_Ico_succ_bot hr]

omit [LinearOrder α] [IsStrictOrderedRing α] in
theorem rowFold_eq {x : Array α} (ha : a.size = n * n) (hx : x.size = n) {r : Nat} (hr : r < n)
    (s : α) :
    (List.range' (r + 1) (n - (r + 1))).foldlM (fun s c => do
      return s - (← Fault.at a (r * n + c)) * (← Fault.at x c)) s =
      .ok (s - ∑ c ∈ Finset.Ico (r + 1) n, a.getD (r * n + c) 0 * x.getD c 0) := by
  obtain ⟨t, ht, hval⟩ := foldlM_range'_inv
    (fun k t => t = s - ∑ c ∈ Finset.Ico (r + 1) k, a.getD (r * n + c) 0 * x.getD c 0)
    (fun s c => do return s - (← Fault.at a (r * n + c)) * (← Fault.at x c))
    (r + 1) (n - (r + 1)) s (by simp)
    (fun k t hk₁ hk₂ ht => by
      rw [at_of_lt 0 (ha ▸ index_lt hr (by omega)), ok_bind, at_of_lt 0 (by omega), ok_bind]
      refine ⟨_, rfl, ?_⟩
      rw [ht, Finset.sum_Ico_succ_top hk₁, sub_add_eq_sub_sub])
  rw [show r + 1 + (n - (r + 1)) = n by omega] at hval
  rw [ht, hval]

omit [LinearOrder α] [IsStrictOrderedRing α] in
theorem backSubstitute_spec (ha : a.size = n * n) (hb : b.size = n) (hred : Reduced a n n) :
    ∃ x, backSubstitute a b n = .ok x ∧ x.size = n ∧
      (rowMajor a n).mulVec (entries x n) = entries b n := by
  have hz : ∀ i, i < n → ∀ c, c < i → a.getD (i * n + c) 0 = 0 :=
    fun i hi c hc => (hred c (by omega) (by omega)).2 i hc hi
  -- after `k` steps: the last `k` equations hold, the first `n - k` entries are still `b`'s
  obtain ⟨x, hx, hsize, -, hlast⟩ := foldlM_range'_inv
    (fun k (x : Array α) => x.size = n ∧ (∀ i, i + k < n → x.getD i 0 = b.getD i 0) ∧
      ∀ i (hi : i < n), n - k ≤ i → (rowMajor a n).mulVec (entries x n) ⟨i, hi⟩ = b.getD i 0)
    (fun b k => do
      let r := n - 1 - k
      let sum ← (List.range' (r + 1) (n - (r + 1))).foldlM (fun s c => do
        return s - (← Fault.at a (r * n + c)) * (← Fault.at b c)) (← Fault.at b r)
      Fault.put b r (sum / (← Fault.at a (r * n + r))))
    0 n b ⟨hb, fun _ _ => rfl, fun i hi h => absurd hi (by omega)⟩
    (fun k x _ hk hI => by
      obtain ⟨hx, hfirst, hlast⟩ := hI
      have hr : n - 1 - k < n := by omega
      have hrx : n - 1 - k < x.size := by omega
      dsimp only
      rw [at_of_lt 0 hrx, ok_bind, rowFold_eq ha hx hr, ok_bind,
        at_of_lt 0 (ha ▸ index_lt hr hr), ok_bind, put_of_lt _ hrx]
      refine ⟨_, rfl, by simp [hx], fun i hi => ?_, fun i hi hki => ?_⟩
      · rw [getD_set, if_neg (by omega)]
        exact hfirst i (by omega)
      -- entries right of row `n - 1 - k` are untouched
      have hright : ∀ (v : α) i, n - 1 - k ≤ i →
          ∑ c ∈ Finset.Ico (i + 1) n, a.getD (i * n + c) 0 * (x.set _ v hrx).getD c 0 =
            ∑ c ∈ Finset.Ico (i + 1) n, a.getD (i * n + c) 0 * x.getD c 0 :=
        fun v i hi => Finset.sum_congr rfl fun c hc => by
          rw [getD_set, if_neg (by simp at hc; omega)]
      rw [mulVec_upper hi (hz i hi), hright _ i (by omega)]
      rcases Nat.lt_or_ge (n - 1 - k) i with hlt | hge
      · -- a row below: its equation held before and reads nothing that changed
        have hold := hlast i hi (by omega)
        rw [mulVec_upper hi (hz i hi)] at hold
        rw [getD_set, if_neg (by omega)]
        exact hold
      · -- the row just solved
        obtain rfl : i = n - 1 - k := by omega
        have hpiv := (hred _ hr hr).1
        rw [getD_set, if_pos rfl, hfirst _ (by omega)]
        field_simp
        ring)
  refine ⟨x, ?_, hsize, funext fun ⟨i, hi⟩ => hlast i hi (by omega)⟩
  unfold backSubstitute
  rw [List.range_eq_range']
  exact hx

/-! ## The solver -/

theorem solve_spec (a b : Array α) (n : Nat) (ha : a.size = n * n)
    (hb : b.size = n) :
    ∃ r, solve a b n = .ok r ∧
      (r = none ↔ ∃ k < n, ∃ a' b', reduceColumns a b n k = .ok (some (a', b')) ∧
        ∀ i, k ≤ i → i < n → |a'.getD (i * n + k) 0| < pivotTolerance) ∧
      ((rowMajor a n).det = 0 → r = none) ∧
      ∀ x, r = some x → x.size = n ∧ (rowMajor a n).mulVec (entries x n) = entries b n ∧
        ∀ y, (rowMajor a n).mulVec y = entries b n → y = entries x n := by
  obtain ⟨r, hr, hnone, hsome⟩ := reduceColumns_spec ha hb le_rfl
  unfold solve
  rw [hr, ok_bind]
  cases r with
  | none => exact ⟨none, rfl, iff_of_true rfl (hnone.1 rfl), fun _ => rfl, fun _ h => nomatch h⟩
  | some ab =>
    obtain ⟨ha', hb', hred, hsol⟩ := hsome ab.1 ab.2 rfl
    obtain ⟨x, hx, hxs, hAx⟩ := backSubstitute_spec ha' hb' hred
    -- the reduced matrix is invertible, so its system has one solution, and so has the original
    have hinj : Function.Injective (rowMajor ab.1 n).mulVec :=
      Matrix.mulVec_injective_iff_isUnit.mpr ((Matrix.isUnit_iff_isUnit_det _).mpr
        (isUnit_iff_ne_zero.mpr (det_ne_zero_of_reduced hred)))
    have hsolves : (rowMajor a n).mulVec (entries x n) = entries b n := (hsol _).mp hAx
    have huniq : ∀ y, (rowMajor a n).mulVec y = entries b n → y = entries x n :=
      fun y hy => hinj (((hsol y).mpr hy).trans hAx.symm)
    refine ⟨some x, by dsimp only; rw [hx]; rfl, iff_of_false (by simp) fun h => ?_, fun hdet => ?_,
      fun x' h => ?_⟩
    · exact absurd (hnone.2 h) (by simp)
    · -- a vector in the kernel would give a second solution
      obtain ⟨v, hv, hAv⟩ := Matrix.exists_mulVec_eq_zero_iff.mpr hdet
      have hshift : entries x n + v = entries x n :=
        huniq _ (by rw [Matrix.mulVec_add, hAv, add_zero, hsolves])
      exact absurd (add_eq_left.mp hshift) hv
    · cases h
      exact ⟨hxs, hsolves, huniq⟩

/-! ## Rationals

Rational statements keep views and a magnitude of their own, equal by
definition to the ordered field's. -/

/-- Rationals take their absolute value as magnitude. -/
instance : Magnitude ℚ := ⟨fun x => |x|⟩

/-- The matrix a row-major array of side `n` holds. -/
def matrixOf (a : Array ℚ) (n : Nat) : Matrix (Fin n) (Fin n) ℚ :=
  Matrix.of fun i j => a.getD (i * n + j) 0

/-- The vector the first `n` entries of an array hold. -/
def vectorOf (b : Array ℚ) (n : Nat) : Fin n → ℚ := fun i => b.getD i 0

/-- Gaussian elimination with partial pivoting, in exact arithmetic, on a
row-major `n × n` matrix and a right-hand side of `n` entries.  It never
faults, so it reads and writes only inside the two arrays.  It refuses exactly
when, at some column, no entry of the partly reduced matrix from the diagonal
down reaches the tolerance `10⁻¹²`, so always when the matrix is singular.  An
answer it gives is the one solution of the system. -/
theorem solve_refuses_or_solves (a b : Array ℚ) (n : Nat) (ha : a.size = n * n)
    (hb : b.size = n) :
    ∃ r, solve a b n = .ok r ∧
      (r = none ↔ ∃ k < n, ∃ a' b', reduceColumns a b n k = .ok (some (a', b')) ∧
        ∀ i, k ≤ i → i < n → |a'.getD (i * n + k) 0| < pivotTolerance) ∧
      ((matrixOf a n).det = 0 → r = none) ∧
      ∀ x, r = some x → x.size = n ∧ (matrixOf a n).mulVec (vectorOf x n) = vectorOf b n ∧
        ∀ y, (matrixOf a n).mulVec y = vectorOf b n → y = vectorOf x n :=
  solve_spec a b n ha hb

theorem solve_refuses_or_solves_two_by_two :
    ((#[2, 1, 1, 3] : Array ℚ).size = 2 * 2 ∧ (#[3, 5] : Array ℚ).size = 2) ∧
    ∃ r, solve (#[2, 1, 1, 3] : Array ℚ) #[3, 5] 2 = .ok r ∧
      (r = none ↔ ∃ k < 2, ∃ a' b', reduceColumns (#[2, 1, 1, 3] : Array ℚ) #[3, 5] 2 k =
          .ok (some (a', b')) ∧ ∀ i, k ≤ i → i < 2 → |a'.getD (i * 2 + k) 0| < pivotTolerance) ∧
      ((matrixOf #[2, 1, 1, 3] 2).det = 0 → r = none) ∧
      ∀ x, r = some x → x.size = 2 ∧
        (matrixOf #[2, 1, 1, 3] 2).mulVec (vectorOf x 2) = vectorOf #[3, 5] 2 ∧
        ∀ y, (matrixOf #[2, 1, 1, 3] 2).mulVec y = vectorOf #[3, 5] 2 → y = vectorOf x 2 :=
  ⟨⟨rfl, rfl⟩, solve_refuses_or_solves #[2, 1, 1, 3] #[3, 5] 2 rfl rfl⟩

end Multibody.Dynamics
