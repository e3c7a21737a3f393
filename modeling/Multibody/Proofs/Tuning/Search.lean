import Mathlib
import Multibody.Tuning.Grid
import Multibody.Proofs.Decimal.Order

/-!
# Grid search: the points, the best point and the ranking

The points of a grid are every choice of one value per range, the first
varying slowest (`gridIndex`, `points_at`).  A search picks the first point
of least score, or nothing when no score is below infinity
(`best?_eq_some_iff`, `best?_eq_none_iff`), and the ranking starts with it
(`head?_ranked_of_best?`); doubles are compared through `Decimal.rank`.
`points_search_and_ranking_agree` proves `SearchSpec` of every grid.
-/

namespace Multibody.Tuning

open Decimal

/-! ## Points -/

theorem lookup_cons (k n : String) (x : Float) (t : Point) :
    ((k, x) :: t).lookup n = if n = k then some x else t.lookup n := by
  by_cases h : n = k
  · simp [List.lookup, h]
  · simp [List.lookup, h, beq_false_of_ne h]

theorem lookup_map_of_fst (t : Point) (f : String × Float → String × Float)
    (hf : ∀ e, (f e).1 = e.1) (n : String) :
    (t.map f).lookup n = (t.lookup n).map fun x => (f (n, x)).2 := by
  induction t with
  | nil => rfl
  | cons e t ih =>
    obtain ⟨k, x⟩ := e
    have hfk : f (k, x) = (k, (f (k, x)).2) := Prod.ext (hf (k, x)) rfl
    rw [List.map_cons, hfk, lookup_cons, lookup_cons, ih]
    by_cases h : n = k
    · subst h; simp
    · simp [h]

theorem lookup_append_single (p : Point) (m n : String) (v : Float) :
    (p ++ [(m, v)]).lookup n = (p.lookup n).or (if n = m then some v else none) := by
  induction p with
  | nil => simp [lookup_cons]
  | cons e t ih =>
    obtain ⟨k, x⟩ := e
    rw [List.cons_append, lookup_cons, lookup_cons, ih]
    by_cases h : n = k <;> simp [h]

theorem lookup_isSome_of_any {p : Point} {m : String} (h : p.any (·.1 == m) = true) :
    (p.lookup m).isSome := by
  induction p with
  | nil => simp at h
  | cons e t ih =>
    obtain ⟨k, x⟩ := e
    rw [lookup_cons]
    by_cases hk : m = k
    · simp [hk]
    · simp_all [beq_false_of_ne (Ne.symm hk)]

theorem lookup_eq_none_of_not_any {p : Point} {m : String} (h : ¬ p.any (·.1 == m) = true) :
    p.lookup m = none := by
  induction p with
  | nil => rfl
  | cons e t ih =>
    obtain ⟨k, x⟩ := e
    rw [lookup_cons]
    by_cases hk : m = k
    · subst hk; simp at h
    · have ht : ¬ t.any (·.1 == m) = true := fun ht => h (by simp [ht])
      simp [hk, ih ht]

@[simp] theorem lookup_set (p : Point) (m n : String) (v : Float) :
    (p.set m v).lookup n = if n = m then some v else p.lookup n := by
  unfold Point.set
  split
  · rename_i hany
    rw [lookup_map_of_fst _ _ (fun e => by dsimp only; split <;> rfl)]
    by_cases h : n = m
    · subst h
      obtain ⟨x, hx⟩ := Option.isSome_iff_exists.mp (lookup_isSome_of_any hany)
      simp [hx]
    · cases p.lookup n <;> simp [h, beq_false_of_ne h]
  · rename_i hany
    rw [lookup_append_single]
    by_cases h : n = m
    · subst h; simp [lookup_eq_none_of_not_any hany]
    · simp [h]


/-- The point reached by setting each name of `nvs` to its value, in order. -/
def Point.setAll (p : Point) (nvs : List (String × Float)) : Point :=
  nvs.foldl (fun q nv => q.set nv.1 nv.2) p

theorem lookup_setAll (p : Point) (nvs : List (String × Float)) (n : String) :
    (p.setAll nvs).lookup n = (nvs.reverse.lookup n).or (p.lookup n) := by
  induction nvs generalizing p with
  | nil => simp [Point.setAll]
  | cons nv nvs ih =>
    obtain ⟨m, v⟩ := nv
    have hstep : p.setAll ((m, v) :: nvs) = (p.set m v).setAll nvs := rfl
    rw [hstep, ih, lookup_set, List.reverse_cons, lookup_append_single]
    by_cases h : n = m <;> simp [h]

theorem length_extend (pts : List Point) (name : String) (range : List Float) :
    (extend pts name range).length = pts.length * range.length := by
  induction pts with
  | nil => simp [extend]
  | cons p pts ih =>
    simp only [extend, List.flatMap_cons, List.length_append, List.length_map] at ih ⊢
    rw [ih, List.length_cons, Nat.succ_mul, Nat.add_comm]

theorem getElem?_extend (pts : List Point) (name : String) (range : List Float) (j : Nat)
    {i : Nat} (hi : i < range.length) :
    (extend pts name range)[j * range.length + i]? = pts[j]?.map fun p => p.set name range[i] := by
  induction pts generalizing j with
  | nil => simp [extend]
  | cons p pts ih =>
    have hstep : extend (p :: pts) name range = range.map (p.set name) ++ extend pts name range := rfl
    rw [hstep]
    cases j with
    | zero => simp [List.getElem?_append_left, hi]
    | succ j =>
      rw [List.getElem?_append_right (by simp; nlinarith)]
      have hidx : (j + 1) * range.length + i - (range.map (p.set name)).length =
          j * range.length + i := by simp [Nat.succ_mul]; omega
      rw [hidx, ih]
      simp


/-- The place of a choice of one value per range among the points of a grid,
`∑ d, is[d] * ∏ e > d, |ranges[e]|`: the first range's choice counts most. -/
def gridIndex : List Nat → List (List Float) → Nat
  | i :: is, _ :: rs => i * (rs.map List.length).prod + gridIndex is rs
  | _, _ => 0

/-- The values a choice of places picks, one from each range. -/
def chosen (is : List Nat) (ranges : List (List Float)) : List Float :=
  List.zipWith (fun i r => r.getD i 0.0) is ranges

theorem length_foldl_extend (names : List String) (ranges : List (List Float))
    (hn : names.length = ranges.length) (P : List Point) :
    ((names.zip ranges).foldl (fun pts nr => extend pts nr.1 nr.2) P).length =
      P.length * (ranges.map List.length).prod := by
  induction ranges generalizing names P with
  | nil => simp
  | cons r rs ih =>
    obtain ⟨n, ns, rfl⟩ := List.exists_cons_of_length_eq_add_one hn
    rw [List.zip_cons_cons, List.foldl_cons, ih ns (by simpa using hn), length_extend]
    simp [Nat.mul_assoc]

theorem getElem?_foldl_extend (names : List String) (ranges : List (List Float)) (is : List Nat)
    (hn : names.length = ranges.length) (hb : List.Forall₂ (fun i r => i < List.length r) is ranges)
    (P : List Point) (j : Nat) :
    ((names.zip ranges).foldl (fun pts nr => extend pts nr.1 nr.2) P)[j *
        (ranges.map List.length).prod + gridIndex is ranges]? =
      P[j]?.map fun p => p.setAll (names.zip (chosen is ranges)) := by
  induction hb generalizing names P j with
  | nil =>
    obtain rfl : names = [] := List.eq_nil_of_length_eq_zero (by simpa using hn)
    simp [Point.setAll, gridIndex]
  | cons hi hb ih =>
    rename_i i r is rs
    obtain ⟨n, ns, rfl⟩ := List.exists_cons_of_length_eq_add_one hn
    have hidx : j * ((r :: rs).map List.length).prod + gridIndex (i :: is) (r :: rs) =
        (j * r.length + i) * (rs.map List.length).prod + gridIndex is rs := by
      simp only [List.map_cons, List.prod_cons, gridIndex]
      ring
    rw [List.zip_cons_cons, List.foldl_cons, hidx, ih ns (by simpa using hn), getElem?_extend _ _ _ _ hi]
    simp [chosen, Point.setAll, List.getElem?_eq_getElem hi, Function.comp_def]

theorem length_points (names : List String) (ranges : List (List Float))
    (hn : names.length = ranges.length) :
    (points names ranges).length = (ranges.map List.length).prod := by
  simpa [points] using length_foldl_extend names ranges hn [[]]

theorem points_at (names : List String) (ranges : List (List Float)) (is : List Nat)
    (hn : names.length = ranges.length) (hb : List.Forall₂ (fun i r => i < List.length r) is ranges) :
    ∃ p, (points names ranges)[gridIndex is ranges]? = some p ∧
      ∀ n, p.lookup n = ((names.zip (chosen is ranges)).reverse).lookup n := by
  have h := getElem?_foldl_extend names ranges is hn hb [[]] 0
  simp only [Nat.zero_mul, Nat.zero_add] at h
  refine ⟨_, h, fun n => ?_⟩
  rw [lookup_setAll]
  simp [List.lookup]



example : points ["a", "b"] [[1.0, 2.0], [3.0]] =
    [[("a", 1.0), ("b", 3.0)], [("a", 2.0), ("b", 3.0)]] := by
  decide +kernel

/-! ## The search -/

/-- Score `i` is a least score: a number that no score is below. -/
def LeastScore (scores : List Float) (i : Nat) : Prop :=
  ∃ s, scores[i]? = some s ∧ isNaN s = false ∧ ∀ t ∈ scores, ¬ t < s

/-- Point `i` is the first with a least score. -/
def FirstLeast (scores : List Float) (i : Nat) : Prop :=
  LeastScore scores i ∧ ∀ j < i, ¬ LeastScore scores j

theorem FirstLeast.unique {scores : List Float} {i j : Nat} (hi : FirstLeast scores i)
    (hj : FirstLeast scores j) : i = j := by
  rcases Nat.lt_trichotomy i j with h | h | h
  · exact absurd hi.1 (hj.2 i h)
  · exact h
  · exact absurd hj.1 (hi.2 j h)

theorem rank_eq_infinity {u : Float} (hu : isNaN u = false) (hui : ¬ u < 1.0 / 0.0) :
    rank u = rank (1.0 / 0.0) :=
  le_antisymm (rank_le_infinity u) ((not_lt_iff_rank_le hu isNaN_infinity).mp hui)

theorem leastScore_append_of_lt {scores : List Float} {s : Float} {j : Nat}
    (hj : j < scores.length) :
    LeastScore (scores ++ [s]) j ↔ LeastScore scores j ∧ ¬ s < scores[j] := by
  simp only [LeastScore, List.getElem?_append_left hj, List.getElem?_eq_getElem hj,
    Option.some.injEq, List.mem_append, List.mem_singleton]
  constructor
  · rintro ⟨u, rfl, hu, hall⟩
    exact ⟨⟨_, rfl, hu, fun t ht => hall t (.inl ht)⟩, hall s (.inr rfl)⟩
  · rintro ⟨⟨u, rfl, hu, hall⟩, hs⟩
    exact ⟨_, rfl, hu, fun t ht => ht.elim (hall t) (fun h => h ▸ hs)⟩

theorem leastScore_append_last {scores : List Float} {s : Float} :
    LeastScore (scores ++ [s]) scores.length ↔ isNaN s = false ∧ ∀ t ∈ scores, ¬ t < s := by
  simp only [LeastScore, List.getElem?_append_right (Nat.le_refl _), Nat.sub_self,
    List.getElem?_cons_zero, Option.some.injEq, List.mem_append, List.mem_singleton]
  constructor
  · rintro ⟨u, rfl, hu, hall⟩
    exact ⟨hu, fun t ht => hall t (.inl ht)⟩
  · rintro ⟨hu, hall⟩
    refine ⟨s, rfl, hu, fun t ht => ht.elim (hall t) ?_⟩
    rintro rfl
    exact (not_lt_iff_rank_le hu hu).mpr le_rfl


theorem firstLeast_append_last {scores : List Float} {s : Float} (hsn : isNaN s = false)
    (below : ∀ u ∈ scores, isNaN u = false → s < u) : FirstLeast (scores ++ [s]) scores.length := by
  refine ⟨leastScore_append_last.mpr ⟨hsn, fun u hu hus => ?_⟩, fun j hj hl => ?_⟩
  · exact not_lt_of_lt hus (below u hu (isNaN_eq_false_of_lt hus).1)
  · obtain ⟨⟨u, hu, hun, -⟩, hsu⟩ := (leastScore_append_of_lt hj).mp hl
    obtain rfl : scores[j] = u := (List.getElem?_eq_some_iff.mp hu).2
    exact hsu (below _ (List.getElem_mem hj) hun)

theorem firstLeast_append_of_not_lt {scores : List Float} {s : Float} {j : Nat}
    (hfirst : FirstLeast scores j) (hj : j < scores.length) (hs : ¬ s < scores[j]) :
    FirstLeast (scores ++ [s]) j :=
  ⟨(leastScore_append_of_lt hj).mpr ⟨hfirst.1, hs⟩,
    fun j' hj' hl => hfirst.2 j' hj' ((leastScore_append_of_lt (hj'.trans hj)).mp hl).1⟩

/-- What the scan for the best score knows after some scores: nothing while
no score is below infinity, else the place and value of the first least
score. -/
def Scanned (scores : List Float) (acc : Option (Nat × Float)) : Prop :=
  (acc = none → ∀ t ∈ scores, ¬ t < 1.0 / 0.0) ∧
    ∀ j t, acc = some (j, t) → scores[j]? = some t ∧ t < 1.0 / 0.0 ∧ FirstLeast scores j

section Scan

variable (F : Option (Nat × Float) → Nat × Float → Option (Nat × Float))
  (hnone : ∀ i s, F none (i, s) = if s < 1.0 / 0.0 then some (i, s) else none)
  (hsome : ∀ j t i s, F (some (j, t)) (i, s) = if s < t then some (i, s) else some (j, t))
include hnone hsome

theorem scanned_step (scores : List Float) (s : Float) (acc : Option (Nat × Float))
    (h : Scanned scores acc) : Scanned (scores ++ [s]) (F acc (scores.length, s)) := by
  rcases acc with _ | ⟨j, t⟩
  · -- nothing scored yet: every earlier number is infinite
    have hall := h.1 rfl
    rw [hnone]
    split
    · rename_i hs
      have hsn := (isNaN_eq_false_of_lt hs).1
      have below : ∀ u ∈ scores, isNaN u = false → s < u := fun u hu hun => by
        rw [lt_iff_rank_lt hsn hun, rank_eq_infinity hun (hall u hu)]
        exact (lt_iff_rank_lt hsn isNaN_infinity).mp hs
      refine ⟨(fun h => by cases h), fun j' t' he => ?_⟩
      obtain ⟨rfl, rfl⟩ := Prod.mk.inj (Option.some.inj he)
      exact ⟨by simp, hs, firstLeast_append_last hsn below⟩
    · rename_i hs
      refine ⟨fun _ u hu => ?_, (fun j t he => by cases he)⟩
      rcases List.mem_append.mp hu with hu | hu
      · exact hall u hu
      · rw [List.mem_singleton.mp hu]; exact hs
  · -- the first least score so far is `t`, at `j`
    obtain ⟨hj, ht, hfirst⟩ := h.2 j t rfl
    obtain ⟨hjl, rfl⟩ := List.getElem?_eq_some_iff.mp hj
    have htn := (isNaN_eq_false_of_lt ht).1
    rw [hsome]
    refine ⟨(fun h => by split at h <;> cases h), fun j' t' he => ?_⟩
    split at he
    · rename_i hst
      obtain ⟨rfl, rfl⟩ := Prod.mk.inj (Option.some.inj he)
      have hsn := (isNaN_eq_false_of_lt hst).1
      -- no earlier score is below `t`, so `s` is below every earlier number
      have below : ∀ u ∈ scores, isNaN u = false → s < u := fun u hu hun => by
        obtain ⟨v, hv, -, hall⟩ := hfirst.1
        obtain rfl : scores[j] = v := (List.getElem?_eq_some_iff.mp hv).2
        rw [lt_iff_rank_lt hsn hun]
        exact lt_of_lt_of_le ((lt_iff_rank_lt hsn htn).mp hst)
          ((not_lt_iff_rank_le hun htn).mp (hall u hu))
      have hsi : s < 1.0 / 0.0 := by
        rw [lt_iff_rank_lt hsn isNaN_infinity]
        exact ((lt_iff_rank_lt hsn htn).mp hst).trans ((lt_iff_rank_lt htn isNaN_infinity).mp ht)
      exact ⟨by simp, hsi, firstLeast_append_last hsn below⟩
    · rename_i hst
      obtain ⟨rfl, rfl⟩ := Prod.mk.inj (Option.some.inj he)
      exact ⟨by simp [List.getElem?_append_left hjl], ht, firstLeast_append_of_not_lt hfirst hjl hst⟩

theorem scanned_foldl (scores : List Float) :
    Scanned scores (((List.range scores.length).zip scores).foldl F none) := by
  induction scores using List.reverseRecOn with
  | nil => exact ⟨(fun _ t ht => by cases ht), (fun j t he => by cases he)⟩
  | append_singleton scores s ih =>
    rw [List.length_append, List.length_singleton, List.range_succ,
      List.zip_append (by simp), List.foldl_append]
    exact scanned_step F hnone hsome scores s _ ih

end Scan

theorem best?_scanned (scores : List Float) :
    ∃ acc, best? scores = acc.map (·.1) ∧ Scanned scores acc :=
  ⟨_, rfl, scanned_foldl _ (fun _ _ => rfl) (fun _ _ _ _ => rfl) scores⟩

theorem best?_eq_none_iff (scores : List Float) :
    best? scores = none ↔ ∀ t ∈ scores, ¬ t < 1.0 / 0.0 := by
  obtain ⟨acc, hbest, h⟩ := best?_scanned scores
  rw [hbest]
  rcases acc with _ | ⟨j, t⟩
  · exact ⟨fun _ => h.1 rfl, fun _ => rfl⟩
  · obtain ⟨hj, ht, -⟩ := h.2 j t rfl
    simp only [Option.map_some, reduceCtorEq, false_iff, not_forall, not_not]
    exact ⟨t, List.mem_of_getElem? hj, ht⟩

theorem best?_eq_some_iff (scores : List Float) (i : Nat) :
    best? scores = some i ↔ (∃ t ∈ scores, t < 1.0 / 0.0) ∧ FirstLeast scores i := by
  obtain ⟨acc, hbest, h⟩ := best?_scanned scores
  rw [hbest]
  rcases acc with _ | ⟨j, t⟩
  · simp only [Option.map_none, reduceCtorEq, false_iff, not_and]
    intro ⟨t, ht, hti⟩
    exact absurd hti (h.1 rfl t ht)
  · obtain ⟨hj, ht, hfirst⟩ := h.2 j t rfl
    simp only [Option.map_some, Option.some.injEq]
    exact ⟨fun hji => ⟨⟨t, List.mem_of_getElem? hj, ht⟩, hji ▸ hfirst⟩,
      fun ⟨_, hi⟩ => hfirst.unique hi⟩



/-! ## The ranking -/

theorem pairwise_mergeSort_lex {β : Type} [LinearOrder β] (K : List (β × Nat))
    (hK : K.Pairwise (fun a b => a.2 < b.2)) :
    (K.mergeSort (fun a b => decide (a.1 ≤ b.1))).Pairwise
      (fun a b => a.1 < b.1 ∨ a.1 = b.1 ∧ a.2 < b.2) := by
  have trans : ∀ a b c : β × Nat, decide (a.1 ≤ b.1) → decide (b.1 ≤ c.1) → decide (a.1 ≤ c.1) := by
    intro a b c hab hbc
    simp only [decide_eq_true_eq] at hab hbc ⊢
    exact hab.trans hbc
  have total : ∀ a b : β × Nat, (decide (a.1 ≤ b.1) || decide (b.1 ≤ a.1)) := by
    intro a b
    simpa using le_total a.1 b.1
  induction K with
  | nil => simp
  | cons a K ih =>
    obtain ⟨l₁, l₂, hsplit, hrest, hbefore⟩ := List.mergeSort_cons trans total a K
    have hih := ih (List.pairwise_cons.mp hK).2
    rw [hrest, List.pairwise_append] at hih
    have hsorted := List.pairwise_mergeSort trans total (a :: K)
    rw [hsplit, List.pairwise_append, List.pairwise_cons] at hsorted
    rw [hsplit, List.pairwise_append, List.pairwise_cons]
    -- every key after `a` comes later in the input, so it has a larger second part
    have hlater : ∀ b ∈ l₂, a.2 < b.2 := fun b hb =>
      (List.pairwise_cons.mp hK).1 b ((List.mergeSort_perm K _).mem_iff.mp (hrest ▸ List.mem_append_right l₁ hb))
    refine ⟨hih.1, ⟨fun b hb => ?_, hih.2.1⟩, fun x hx y hy => ?_⟩
    · have hab : a.1 ≤ b.1 := by simpa using hsorted.2.1.1 b hb
      rcases hab.lt_or_eq with h | h
      · exact .inl h
      · exact .inr ⟨h, hlater b hb⟩
    · rcases List.mem_cons.mp hy with rfl | hy
      · exact .inl (by simpa using hbefore x hx)
      · exact hih.2.2 x hx y hy


theorem mem_zip_range {scores : List Float} {i : Nat} {s : Float} :
    (i, s) ∈ (List.range scores.length).zip scores ↔ scores[i]? = some s := by
  rw [List.mem_iff_getElem, List.getElem?_eq_some_iff]
  constructor
  · rintro ⟨k, hk, he⟩
    simp only [List.getElem_zip, List.getElem_range, Prod.mk.injEq] at he
    obtain ⟨rfl, rfl⟩ := he
    exact ⟨by simp at hk; omega, rfl⟩
  · rintro ⟨hi, rfl⟩
    exact ⟨i, by simpa using hi, by simp⟩

/-- Point `i` ranks before point `j`: a lower score, or no higher one and an
earlier place. -/
def RanksBefore (scores : List Float) (i j : Nat) : Prop :=
  scores.getD i 0.0 < scores.getD j 0.0 ∨ ¬ scores.getD j 0.0 < scores.getD i 0.0 ∧ i < j

theorem ranked_eq_keys (scores : List Float) :
    ∃ K : List ((ℤ ×ₗ ℤ ×ₗ ℤ) × Nat),
      ranked scores = (K.mergeSort fun a b => decide (a.1 ≤ b.1)).map (·.2) ∧
      K.Pairwise (fun a b => a.2 < b.2) ∧
      ∀ k i, (k, i) ∈ K ↔ ∃ s, scores[i]? = some s ∧ isNaN s = false ∧ k = rank s := by
  unfold ranked
  generalize hsc : List.filter _ ((List.range scores.length).zip scores) = scored
  have hmem : ∀ i s, (i, s) ∈ scored ↔ scores[i]? = some s ∧ isNaN s = false := by
    intro i s
    rw [← hsc, List.mem_filter, mem_zip_range]
    simp
  have hsorted : scored.Pairwise (fun a b => a.1 < b.1) := by
    rw [← hsc]
    apply List.Pairwise.filter
    have hrange := List.pairwise_lt_range (n := scores.length)
    rw [← List.map_fst_zip (by simp : (List.range scores.length).length ≤ scores.length)] at hrange
    exact List.pairwise_map.mp hrange
  refine ⟨scored.map fun e => (rank e.2, e.1), ?_, List.pairwise_map.mpr hsorted, fun k i => ?_⟩
  · -- on scored points the model's comparison is the comparison of keys
    have hcmp : ∀ a ∈ scored, ∀ b ∈ scored,
        (!(b.2 < a.2)) = decide ((rank a.2, a.1).1 ≤ (rank b.2, b.1).1) := by
      rintro ⟨i, x⟩ ha ⟨j, y⟩ hb
      have hx := ((hmem i x).mp ha).2
      have hy := ((hmem j y).mp hb).2
      simp only [← not_lt_iff_rank_le hy hx, decide_not]
    rw [← List.map_mergeSort hcmp, List.map_map]
    rfl
  · simp only [List.mem_map, Prod.mk.injEq]
    constructor
    · rintro ⟨⟨j, s⟩, hs, rfl, rfl⟩
      exact ⟨s, ((hmem j s).mp hs).1, ((hmem j s).mp hs).2, rfl⟩
    · rintro ⟨s, hs, hsn, rfl⟩
      exact ⟨(i, s), (hmem i s).mpr ⟨hs, hsn⟩, rfl, rfl⟩

theorem mem_ranked_iff (scores : List Float) (i : Nat) :
    i ∈ ranked scores ↔ ∃ s, scores[i]? = some s ∧ isNaN s = false := by
  obtain ⟨K, hranked, -, hK⟩ := ranked_eq_keys scores
  rw [hranked]
  simp only [List.mem_map, List.mem_mergeSort, Prod.exists, exists_eq_right, hK]
  constructor
  · rintro ⟨k, s, hs, hsn, -⟩
    exact ⟨s, hs, hsn⟩
  · rintro ⟨s, hs, hsn⟩
    exact ⟨rank s, s, hs, hsn, rfl⟩

theorem nodup_ranked (scores : List Float) : (ranked scores).Nodup := by
  obtain ⟨K, hranked, hsorted, -⟩ := ranked_eq_keys scores
  rw [hranked]
  have hperm := (List.mergeSort_perm K fun a b => decide (a.1 ≤ b.1)).map (·.2)
  exact hperm.nodup_iff.mpr (List.pairwise_map.mpr hsorted).nodup

theorem ranked_pairwise (scores : List Float) : (ranked scores).Pairwise (RanksBefore scores) := by
  obtain ⟨K, hranked, hsorted, hK⟩ := ranked_eq_keys scores
  rw [hranked, List.pairwise_map]
  refine (pairwise_mergeSort_lex K hsorted).imp_of_mem fun {a b} ha hb hab => ?_
  obtain ⟨x, hx, hxn, hka⟩ := (hK a.1 a.2).mp (List.mem_mergeSort.mp ha)
  obtain ⟨y, hy, hyn, hkb⟩ := (hK b.1 b.2).mp (List.mem_mergeSort.mp hb)
  have hgx : scores.getD a.2 0.0 = x := by simp [List.getD_eq_getElem?_getD, hx]
  have hgy : scores.getD b.2 0.0 = y := by simp [List.getD_eq_getElem?_getD, hy]
  rw [RanksBefore, hgx, hgy, lt_iff_rank_lt hxn hyn, not_lt_iff_rank_le hyn hxn, ← hka, ← hkb]
  rcases hab with h | ⟨h, hlt⟩
  · exact .inl h
  · exact .inr ⟨h.le, hlt⟩

theorem firstLeast_of_head? {scores : List Float} {h : Nat} (hh : (ranked scores).head? = some h) :
    FirstLeast scores h := by
  obtain ⟨rest, hr⟩ : ∃ rest, ranked scores = h :: rest := by
    cases hr : ranked scores with
    | nil => simp [hr] at hh
    | cons a rest =>
      simp only [hr, List.head?_cons, Option.some.injEq] at hh
      exact ⟨rest, hh ▸ rfl⟩
  have hpair := ranked_pairwise scores
  rw [hr, List.pairwise_cons] at hpair
  obtain ⟨x, hx, hxn⟩ := (mem_ranked_iff scores h).mp (hr ▸ List.mem_cons_self)
  have hgx : scores.getD h 0.0 = x := by simp [List.getD_eq_getElem?_getD, hx]
  -- every other point with a number as score ranks after `h`
  have after : ∀ j, j ≠ h → ∀ y, scores[j]? = some y → isNaN y = false →
      x < y ∨ ¬ y < x ∧ h < j := by
    intro j hj y hy hyn
    have hmem := (mem_ranked_iff scores j).mpr ⟨y, hy, hyn⟩
    rw [hr] at hmem
    rcases List.mem_cons.mp hmem with rfl | hmem
    · exact absurd rfl hj
    · have hgy : scores.getD j 0.0 = y := by simp [List.getD_eq_getElem?_getD, hy]
      simpa only [RanksBefore, hgx, hgy] using hpair.1 j hmem
  refine ⟨⟨x, hx, hxn, fun t ht hlt => ?_⟩, fun j hj hl => ?_⟩
  · obtain ⟨j, hj⟩ := List.mem_iff_getElem?.mp ht
    by_cases hjh : j = h
    · subst hjh
      obtain rfl : t = x := Option.some.inj (hj.symm.trans hx)
      exact not_lt_of_lt hlt hlt
    · rcases after j hjh t hj (isNaN_eq_false_of_lt hlt).1 with h1 | ⟨h1, -⟩
      · exact not_lt_of_lt h1 hlt
      · exact h1 hlt
  · obtain ⟨y, hy, hyn, hall⟩ := hl
    rcases after j (Nat.ne_of_lt hj) y hy hyn with h1 | ⟨-, h1⟩
    · exact hall x (List.mem_of_getElem? hx) h1
    · omega

theorem head?_ranked_of_best? {scores : List Float} {i : Nat} (h : best? scores = some i) :
    (ranked scores).head? = some i := by
  obtain ⟨-, hfirst⟩ := (best?_eq_some_iff scores i).mp h
  obtain ⟨x, hx, hxn, -⟩ := hfirst.1
  have hmem : i ∈ ranked scores := (mem_ranked_iff scores i).mpr ⟨x, hx, hxn⟩
  cases hr : ranked scores with
  | nil => simp [hr] at hmem
  | cons a rest =>
    have ha := firstLeast_of_head? (show (ranked scores).head? = some a by simp [hr])
    rw [hfirst.unique ha, List.head?_cons]

theorem search_eq_none_iff (pts : List Point) (scores : List Float) :
    search pts scores = none ↔ ∀ t ∈ scores, ¬ t < 1.0 / 0.0 := by
  simp [search, best?_eq_none_iff]

theorem search_eq_some_iff (pts : List Point) (scores : List Float) (p : Point) (s : Float) :
    search pts scores = some (p, s) ↔
      ∃ i, (∃ t ∈ scores, t < 1.0 / 0.0) ∧ FirstLeast scores i ∧
        p = pts.getD i [] ∧ s = scores.getD i 0.0 := by
  simp only [search, Option.map_eq_some_iff, Prod.mk.injEq, best?_eq_some_iff]
  constructor
  · rintro ⟨i, ⟨hlow, hfirst⟩, rfl, rfl⟩
    exact ⟨i, hlow, hfirst, rfl, rfl⟩
  · rintro ⟨i, hlow, hfirst, rfl, rfl⟩
    exact ⟨i, ⟨hlow, hfirst⟩, rfl, rfl⟩

/-! ## A grid search as a whole -/

/-- What a grid search over `names` and `ranges` does with `scores`. -/
structure SearchSpec (names : List String) (ranges : List (List Float)) (scores : List Float) :
    Prop where
  /-- one point per choice of a value in each range -/
  size : (points names ranges).length = (ranges.map List.length).prod
  /-- the point at a choice's place gives each name the value chosen for it last -/
  at_choice : ∀ is, List.Forall₂ (fun i r => i < List.length r) is ranges →
    ∃ p, (points names ranges)[gridIndex is ranges]? = some p ∧
      ∀ n, p.lookup n = ((names.zip (chosen is ranges)).reverse).lookup n
  /-- the search fails exactly when no score is below infinity -/
  search_none : search (points names ranges) scores = none ↔ ∀ t ∈ scores, ¬ t < 1.0 / 0.0
  /-- otherwise it reports the first point with a least score, which the ranking starts with -/
  search_some : ∀ p s, search (points names ranges) scores = some (p, s) ↔
    ∃ i, (∃ t ∈ scores, t < 1.0 / 0.0) ∧ FirstLeast scores i ∧ (ranked scores).head? = some i ∧
      p = (points names ranges).getD i [] ∧ s = scores.getD i 0.0
  /-- the ranking lists each point at most once -/
  ranked_nodup : (ranked scores).Nodup
  /-- exactly the points whose score is a number -/
  mem_ranked : ∀ i, i ∈ ranked scores ↔ ∃ s, scores[i]? = some s ∧ isNaN s = false
  /-- by score, a tie by place -/
  ranked_sorted : (ranked scores).Pairwise (RanksBefore scores)

/-- Every grid search with as many ranges as names does what `SearchSpec` says. -/
theorem points_search_and_ranking_agree (names : List String) (ranges : List (List Float))
    (hn : names.length = ranges.length) (scores : List Float) : SearchSpec names ranges scores where
  size := length_points names ranges hn
  at_choice := fun is hb => points_at names ranges is hn hb
  search_none := search_eq_none_iff _ scores
  search_some := fun p s => by
    rw [search_eq_some_iff]
    constructor
    · rintro ⟨i, hlow, hfirst, hp, hs⟩
      exact ⟨i, hlow, hfirst, head?_ranked_of_best? ((best?_eq_some_iff scores i).mpr ⟨hlow, hfirst⟩),
        hp, hs⟩
    · rintro ⟨i, hlow, hfirst, -, hp, hs⟩
      exact ⟨i, hlow, hfirst, hp, hs⟩
  ranked_nodup := nodup_ranked scores
  mem_ranked := mem_ranked_iff scores
  ranked_sorted := ranked_pairwise scores

/-- A grid of two gains, scored with a NaN and a tie. -/
theorem gainGrid_search_agrees :
    ["kp", "kd"].length = [[1.0, 2.0], [0.5, 1.5]].length ∧
      SearchSpec ["kp", "kd"] [[1.0, 2.0], [0.5, 1.5]] [2.0, 0.0 / 0.0, 1.0, 1.0] :=
  ⟨rfl, points_search_and_ranking_agree _ _ rfl _⟩

end Multibody.Tuning
