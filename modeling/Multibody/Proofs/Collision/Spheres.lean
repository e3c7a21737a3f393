import Multibody.Collision.Sphere
import Multibody.Proofs.Body.Tree
import Mathlib

/-!
# Sphere contacts, exactly

`SphereDetector.pairsAt` run on real numbers; `detect` is the same function
on doubles.  Detection reports the walked pairs (`candidates`) where
`testAt` finds a contact (`pairsAt_toList`, `mem_candidates`,
`candidates_nodup`), and on reals a contact is found exactly when the
centres are closer than the sum of the radii (`contactOf_spec`).
`ReportsExactly` gathers these.
-/

namespace Multibody

/-! ## Vectors of real numbers -/

noncomputable instance : SquareRoot ℝ := ⟨Real.sqrt⟩

attribute [ext] Vec3 Contact

namespace Vec3

variable {α : Type}

theorem add_def [Add α] (a b : Vec3 α) : a + b = ⟨a.x + b.x, a.y + b.y, a.z + b.z⟩ := rfl

theorem sub_def [Sub α] (a b : Vec3 α) : a - b = ⟨a.x - b.x, a.y - b.y, a.z - b.z⟩ := rfl

theorem length_def (v : Vec3 ℝ) : v.length = Real.sqrt (v.x * v.x + v.y * v.y + v.z * v.z) := rfl

theorem length_nonneg (v : Vec3 ℝ) : 0 ≤ v.length := Real.sqrt_nonneg _

theorem squares_nonneg (v : Vec3 ℝ) : 0 ≤ v.x * v.x + v.y * v.y + v.z * v.z :=
  add_nonneg (add_nonneg (mul_self_nonneg _) (mul_self_nonneg _)) (mul_self_nonneg _)

theorem eq_of_length_sub_eq_zero {a b : Vec3 ℝ} (h : (b - a).length = 0) : b = a := by
  rw [length_def, Real.sqrt_eq_zero (squares_nonneg _)] at h
  simp only [sub_def] at h
  -- a sum of three squares is zero only with each of them
  ext <;>
    nlinarith [mul_self_nonneg (b.x - a.x), mul_self_nonneg (b.y - a.y), mul_self_nonneg (b.z - a.z)]

theorem length_sub_self (a : Vec3 ℝ) : (a - a).length = 0 := by
  simp [length_def, sub_def]

theorem length_scale (v : Vec3 ℝ) (c : ℝ) : (v.scale c).length = |c| * v.length := by
  rw [length_def, length_def, ← Real.sqrt_sq_eq_abs, ← Real.sqrt_mul (sq_nonneg c)]
  congr 1
  simp only [scale]
  ring

theorem scale_inv_scale (v : Vec3 ℝ) {c : ℝ} (hc : c ≠ 0) : v = (v.scale (1 / c)).scale c := by
  ext <;> simp only [scale] <;> field_simp

theorem length_unitZ : (unitZ : Vec3 ℝ).length = 1 := by
  norm_num [length_def, unitZ]

end Vec3

namespace SphereDetector

/-! ## Appending folds -/

theorem flatMap_optionToList {β γ : Type} (l : List β) (f : β → Option γ) :
    l.flatMap (fun x => (f x).toList) = l.filterMap f := by
  induction l with
  | nil => rfl
  | cons x l ih => cases hx : f x <;> simp [hx, ih]

theorem filterMap_map_sublist {β γ δ : Type} (l : List β) (F : β → Option γ) (k : γ → δ)
    (g : β → δ) (hk : ∀ x y, F x = some y → k y = g x) :
    ((l.filterMap F).map k).Sublist (l.map g) := by
  induction l with
  | nil => exact List.Sublist.slnil
  | cons x l ih =>
    cases hx : F x with
    | none =>
      simp only [List.filterMap_cons, hx, List.map_cons]
      exact ih.cons _
    | some y =>
      simp only [List.filterMap_cons, hx, List.map_cons, hk x y hx]
      exact ih.cons_cons _

theorem nodup_flatMap_of_mem {β γ : Type} {l : List β} {f : β → List γ} (hl : l.Nodup)
    (hf : ∀ b ∈ l, (f b).Nodup) (hblock : ∀ b ∈ l, ∀ b' ∈ l, ∀ c ∈ f b, c ∈ f b' → b = b') :
    (l.flatMap f).Nodup :=
  List.nodup_flatMap.mpr ⟨hf, hl.pairwise_of_forall_ne fun b hb b' hb' hne =>
    List.disjoint_left.mpr fun c hc hc' => hne (hblock b hb b' hb' c hc hc')⟩

/-! ## The pairs the detector walks -/

section Candidates

variable {α : Type} [Inhabited α]

/-- The pairs a body forms with itself, in the order they are tested: places
`x < y` that are not parent and child, when the body collides with itself. -/
def ownPairs (b : SphereBody α) (parent : LinkId → Option LinkId) :
    List (SphereLink α × SphereLink α) :=
  if b.selfCollision then
    (List.range b.links.size).flatMap fun x => (List.range b.links.size).flatMap fun y =>
      if y ≤ x then []
      else if adjacent parent b.links[x]!.link b.links[y]!.link then []
      else [(b.links[x]!, b.links[y]!)]
  else []

/-- The pairs of a sphere of one body and a sphere of another, in the order
they are tested. -/
def crossPairs (a b : SphereBody α) : List (SphereLink α × SphereLink α) :=
  a.links.toList.flatMap fun la => b.links.toList.map fun lb => (la, lb)

/-- Every pair the detector tests, in order: each body's own pairs, then its
pairs with every later body. -/
def candidates (d : SphereDetector α) (parent : LinkId → Option LinkId) :
    List (SphereLink α × SphereLink α) :=
  (List.range d.bodies.size).flatMap fun i =>
    ownPairs d.bodies[i]! parent ++ (List.range d.bodies.size).flatMap fun j =>
      if j ≤ i then [] else crossPairs d.bodies[i]! d.bodies[j]!

/-- The sphere at place `x` of the `i`-th registered body. -/
def sphere (d : SphereDetector α) (i x : Nat) : SphereLink α := d.bodies[i]!.links[x]!

/-- The spheres at places `(i, x)` and `(j, y)` (registered body, place in it)
are a pair the detector tests, in this order: of a body and a later one, or of
one body that collides with itself, at two places in order whose links are
not parent and child. -/
structure Tested (d : SphereDetector α) (parent : LinkId → Option LinkId) (i x j y : Nat) :
    Prop where
  body_lt : i < d.bodies.size
  other_body_lt : j < d.bodies.size
  place_lt : x < d.bodies[i]!.links.size
  other_place_lt : y < d.bodies[j]!.links.size
  ordered : i < j ∨ i = j ∧ d.bodies[i]!.selfCollision = true ∧ x < y ∧
    ¬(parent (d.sphere i x).link = some (d.sphere j y).link ∨
      parent (d.sphere j y).link = some (d.sphere i x).link)

variable (parent : LinkId → Option LinkId)

theorem adjacent_iff (u v : LinkId) :
    adjacent parent u v = true ↔ parent u = some v ∨ parent v = some u := by
  simp [adjacent]

theorem mem_ownPairs {b : SphereBody α} {q : SphereLink α × SphereLink α} :
    q ∈ ownPairs b parent ↔ b.selfCollision = true ∧ ∃ x y, x < y ∧ y < b.links.size ∧
      ¬(parent b.links[x]!.link = some b.links[y]!.link ∨
        parent b.links[y]!.link = some b.links[x]!.link) ∧ q = (b.links[x]!, b.links[y]!) := by
  unfold ownPairs
  split
  · simp only [List.mem_flatMap, List.mem_range, adjacent_iff]
    constructor
    · rintro ⟨x, -, y, hy, hq⟩
      split_ifs at hq with hxy hadj
      · simp at hq
      · simp at hq
      · rw [List.mem_singleton] at hq
        exact ⟨‹_›, x, y, by omega, hy, hadj, hq⟩
    · rintro ⟨-, x, y, hxy, hy, hadj, rfl⟩
      refine ⟨x, by omega, y, hy, ?_⟩
      rw [if_neg (by omega), if_neg hadj]
      exact List.mem_singleton_self _
  · simp_all

theorem mem_crossPairs {a b : SphereBody α} {q : SphereLink α × SphereLink α} :
    q ∈ crossPairs a b ↔ ∃ x y, x < a.links.size ∧ y < b.links.size ∧
      q = (a.links[x]!, b.links[y]!) := by
  unfold crossPairs
  simp only [List.mem_flatMap, List.mem_map, Array.mem_toList_iff, Array.mem_iff_getElem]
  constructor
  · rintro ⟨_, ⟨x, hx, rfl⟩, _, ⟨y, hy, rfl⟩, rfl⟩
    exact ⟨x, y, hx, hy, by simp [hx, hy]⟩
  · rintro ⟨x, y, hx, hy, rfl⟩
    exact ⟨_, ⟨x, hx, rfl⟩, _, ⟨y, hy, rfl⟩, by simp [hx, hy]⟩

theorem mem_block {d : SphereDetector α} {i : Nat} (hi : i < d.bodies.size)
    {q : SphereLink α × SphereLink α} :
    q ∈ ownPairs d.bodies[i]! parent ++ (List.range d.bodies.size).flatMap (fun j =>
        if j ≤ i then [] else crossPairs d.bodies[i]! d.bodies[j]!) ↔
      ∃ x j y, Tested d parent i x j y ∧ q = (d.sphere i x, d.sphere j y) := by
  rw [List.mem_append, List.mem_flatMap]
  constructor
  · rintro (hown | ⟨j, hj, hcross⟩)
    · obtain ⟨hself, x, y, hxy, hy, hadj, rfl⟩ := (mem_ownPairs parent).1 hown
      exact ⟨x, i, y, ⟨hi, hi, by omega, hy, Or.inr ⟨rfl, hself, hxy, hadj⟩⟩, rfl⟩
    · rw [List.mem_range] at hj
      split_ifs at hcross with hji
      · simp at hcross
      · obtain ⟨x, y, hx, hy, rfl⟩ := mem_crossPairs.1 hcross
        exact ⟨x, j, y, ⟨hi, hj, hx, hy, Or.inl (by omega)⟩, rfl⟩
  · rintro ⟨x, j, y, ⟨-, hj, hx, hy, hij | ⟨rfl, hself, hxy, hadj⟩⟩, rfl⟩
    · refine Or.inr ⟨j, List.mem_range.2 hj, ?_⟩
      rw [if_neg (by omega)]
      exact mem_crossPairs.2 ⟨x, y, hx, hy, rfl⟩
    · exact Or.inl ((mem_ownPairs parent).2 ⟨hself, x, y, hxy, hy, hadj, rfl⟩)

theorem mem_candidates {d : SphereDetector α} {q : SphereLink α × SphereLink α} :
    q ∈ candidates d parent ↔
      ∃ i x j y, Tested d parent i x j y ∧ q = (d.sphere i x, d.sphere j y) := by
  unfold candidates
  rw [List.mem_flatMap]
  constructor
  · rintro ⟨i, hi, hq⟩
    obtain ⟨x, j, y, ht, rfl⟩ := (mem_block parent (List.mem_range.1 hi)).1 hq
    exact ⟨i, x, j, y, ht, rfl⟩
  · rintro ⟨i, x, j, y, ht, rfl⟩
    exact ⟨i, List.mem_range.2 ht.body_lt, (mem_block parent ht.body_lt).2 ⟨x, j, y, ht, rfl⟩⟩

/-- No link is registered at two places. -/
def LinksDistinct (d : SphereDetector α) : Prop :=
  ∀ i x j y, i < d.bodies.size → j < d.bodies.size → x < d.bodies[i]!.links.size →
    y < d.bodies[j]!.links.size → (d.sphere i x).link = (d.sphere j y).link → i = j ∧ x = y

variable {d : SphereDetector α}

theorem ownPairs_nodup (hd : LinksDistinct d) {i : Nat} (hi : i < d.bodies.size) :
    ((ownPairs d.bodies[i]! parent).map fun q => (q.1.link, q.2.link)).Nodup := by
  have hinj : ∀ x y, x ∈ List.range d.bodies[i]!.links.size →
      y ∈ List.range d.bodies[i]!.links.size → (d.sphere i x).link = (d.sphere i y).link → x = y :=
    fun x y hx hy h => (hd i x i y hi hi (List.mem_range.1 hx) (List.mem_range.1 hy) h).2
  unfold ownPairs
  split
  · rw [List.map_flatMap]
    refine nodup_flatMap_of_mem List.nodup_range (fun x hx => ?_) (fun x hx x' hx' c hc hc' => ?_)
    · rw [List.map_flatMap]
      refine nodup_flatMap_of_mem List.nodup_range (fun y hy => ?_) (fun y hy y' hy' c hc hc' => ?_)
      · split_ifs <;> simp
      · -- the second link of the pair fixes its place
        obtain ⟨q, hq, rfl⟩ := List.mem_map.1 hc
        obtain ⟨q', hq', hqq⟩ := List.mem_map.1 hc'
        split_ifs at hq hq' <;> simp only [List.not_mem_nil, List.mem_singleton] at hq hq'
        subst hq hq'
        exact (hinj y' y hy' hy (congrArg Prod.snd hqq)).symm
    · -- the first link of the pair fixes its place
      obtain ⟨q, hq, rfl⟩ := List.mem_map.1 hc
      obtain ⟨q', hq', hqq⟩ := List.mem_map.1 hc'
      obtain ⟨y, -, hq⟩ := List.mem_flatMap.1 hq
      obtain ⟨y', -, hq'⟩ := List.mem_flatMap.1 hq'
      split_ifs at hq hq' <;> simp only [List.not_mem_nil, List.mem_singleton] at hq hq'
      subst hq hq'
      exact (hinj x' x hx' hx (congrArg Prod.fst hqq)).symm
  · simp

theorem links_nodup (hd : LinksDistinct d) {i : Nat} (hi : i < d.bodies.size) :
    (d.bodies[i]!.links.toList.map (·.link)).Nodup := by
  rw [List.nodup_iff_injective_getElem]
  rintro ⟨x, hx⟩ ⟨y, hy⟩ hxy
  simp only [List.length_map, Array.length_toList] at hx hy
  simp only [List.getElem_map, Array.getElem_toList] at hxy
  exact Fin.ext (hd i x i y hi hi hx hy (by simpa [sphere, hx, hy] using hxy)).2

theorem crossPairs_nodup (hd : LinksDistinct d) {i j : Nat} (hi : i < d.bodies.size)
    (hj : j < d.bodies.size) :
    ((crossPairs d.bodies[i]! d.bodies[j]!).map fun q => (q.1.link, q.2.link)).Nodup := by
  have hli := links_nodup hd hi
  unfold crossPairs
  rw [List.map_flatMap]
  refine nodup_flatMap_of_mem (hli.of_map _) (fun la _ => ?_) (fun la hla la' hla' c hc hc' => ?_)
  · -- the pairs of one sphere of body `i`: its link with each link of body `j`
    have hrow : ((d.bodies[j]!.links.toList.map fun lb => (la, lb)).map
        fun q => (q.1.link, q.2.link)) = (d.bodies[j]!.links.toList.map (·.link)).map (Prod.mk la.link) := by
      simp only [List.map_map]
      rfl
    rw [hrow]
    exact (links_nodup hd hj).map (Prod.mk_right_injective _)
  · obtain ⟨q, hq, rfl⟩ := List.mem_map.1 hc
    obtain ⟨q', hq', hqq⟩ := List.mem_map.1 hc'
    obtain ⟨lb, -, rfl⟩ := List.mem_map.1 hq
    obtain ⟨lb', -, rfl⟩ := List.mem_map.1 hq'
    exact (List.inj_on_of_nodup_map hli hla' hla (congrArg Prod.fst hqq)).symm

theorem laterPairs_nodup (hd : LinksDistinct d) {i : Nat} (hi : i < d.bodies.size) :
    (((List.range d.bodies.size).flatMap fun j =>
        if j ≤ i then [] else crossPairs d.bodies[i]! d.bodies[j]!).map
      fun q => (q.1.link, q.2.link)).Nodup := by
  rw [List.map_flatMap]
  refine nodup_flatMap_of_mem List.nodup_range (fun j hj => ?_) (fun j hj j' hj' c hc hc' => ?_)
  · split_ifs
    · simp
    · exact crossPairs_nodup hd hi (List.mem_range.1 hj)
  · obtain ⟨q, hq, rfl⟩ := List.mem_map.1 hc
    obtain ⟨q', hq', hqq⟩ := List.mem_map.1 hc'
    have hji : ¬j ≤ i := fun h => by rw [if_pos h] at hq; exact List.not_mem_nil hq
    have hji' : ¬j' ≤ i := fun h => by rw [if_pos h] at hq'; exact List.not_mem_nil hq'
    rw [if_neg hji] at hq
    rw [if_neg hji'] at hq'
    obtain ⟨x, y, hx, hy, rfl⟩ := mem_crossPairs.1 hq
    obtain ⟨x', y', hx', hy', rfl⟩ := mem_crossPairs.1 hq'
    exact (hd j' y' j y (List.mem_range.1 hj') (List.mem_range.1 hj) hy' hy
      (congrArg Prod.snd hqq)).1.symm

theorem candidates_nodup (hd : LinksDistinct d) :
    ((candidates d parent).map fun q => (q.1.link, q.2.link)).Nodup := by
  unfold candidates
  rw [List.map_flatMap]
  refine nodup_flatMap_of_mem List.nodup_range (fun i hi => ?_) (fun i hi i' hi' c hc hc' => ?_)
  · rw [List.mem_range] at hi
    rw [List.map_append, List.nodup_append]
    refine ⟨ownPairs_nodup parent hd hi, laterPairs_nodup hd hi, ?_⟩
    -- an own pair's second link is in body `i`, a later pair's in a later body
    intro c hc c' hc' hcc
    obtain ⟨q, hq, rfl⟩ := List.mem_map.1 hc
    obtain ⟨q', hq', rfl⟩ := List.mem_map.1 hc'
    obtain ⟨-, x, y, -, hy, -, rfl⟩ := (mem_ownPairs parent).1 hq
    obtain ⟨j, hj, hq'⟩ := List.mem_flatMap.1 hq'
    split_ifs at hq' with hji
    · simp at hq'
    obtain ⟨x', y', -, hy', rfl⟩ := mem_crossPairs.1 hq'
    have := hd i y j y' hi (List.mem_range.1 hj) hy hy' (congrArg Prod.snd hcc)
    omega
  · -- the first link of a pair fixes its body
    obtain ⟨q, hq, rfl⟩ := List.mem_map.1 hc
    obtain ⟨q', hq', hqq⟩ := List.mem_map.1 hc'
    obtain ⟨x, j, y, ht, rfl⟩ := (mem_block parent (List.mem_range.1 hi)).1 hq
    obtain ⟨x', j', y', ht', rfl⟩ := (mem_block parent (List.mem_range.1 hi')).1 hq'
    exact (hd i' x' i x ht'.body_lt ht.body_lt ht'.place_lt ht.place_lt
      (congrArg Prod.fst hqq)).1.symm

end Candidates

section Detection

variable {α : Type} [OfScientific α] [Add α] [Sub α] [Mul α] [Div α] [LE α] [LT α]
  [DecidableLE α] [DecidableLT α] [SquareRoot α] [Inhabited α]
  (centre : LinkId → Vec3 α) (parent : LinkId → Option LinkId)

omit [Inhabited α] in
theorem crossFold_toList (a b : SphereBody α) (acc : Array (LinkPair α)) :
    (a.links.foldl (fun acc la => b.links.foldl (fun acc lb =>
        match testAt centre la lb with
        | some p => acc.push p
        | none => acc) acc) acc).toList =
      acc.toList ++ (crossPairs a b).filterMap fun q => testAt centre q.1 q.2 := by
  rw [← Array.foldl_toList, @Array.foldl_toList_eq_flatMap _ _ _ _ _ (fun la =>
    (b.links.toList.map fun lb => (la, lb)).filterMap fun q => testAt centre q.1 q.2) fun acc la => ?_]
  · rw [crossPairs, List.filterMap_flatMap]
  rw [← Array.foldl_toList, @Array.foldl_toList_eq_flatMap _ _ _ _ _
    (fun lb => (testAt centre la lb).toList) fun acc lb => by split <;> simp_all,
    flatMap_optionToList, List.filterMap_map]
  rfl

theorem ownFold_toList (b : SphereBody α) (acc : Array (LinkPair α)) :
    (if b.selfCollision = true then
      List.foldl (fun acc x => List.foldl (fun acc y =>
          if y ≤ x then acc
          else if adjacent parent b.links[x]!.link b.links[y]!.link = true then acc
          else match testAt centre b.links[x]! b.links[y]! with
            | some p => acc.push p
            | none => acc)
        acc (List.range b.links.size)) acc (List.range b.links.size)
    else acc).toList =
      acc.toList ++ (ownPairs b parent).filterMap fun q => testAt centre q.1 q.2 := by
  unfold ownPairs
  split
  · rw [@Array.foldl_toList_eq_flatMap _ _ _ _ _ (fun x => ((List.range b.links.size).flatMap fun y =>
        if y ≤ x then []
        else if adjacent parent b.links[x]!.link b.links[y]!.link then []
        else [(b.links[x]!, b.links[y]!)]).filterMap fun q => testAt centre q.1 q.2) fun acc x => ?_,
      List.filterMap_flatMap]
    rw [@Array.foldl_toList_eq_flatMap _ _ _ _ _ (fun y =>
        if y ≤ x then []
        else if adjacent parent b.links[x]!.link b.links[y]!.link then []
        else (testAt centre b.links[x]! b.links[y]!).toList) fun acc y => ?_,
      List.filterMap_flatMap]
    · congr 2
      funext y
      split_ifs
      · rfl
      · rfl
      · cases h : testAt centre b.links[x]! b.links[y]! <;> simp [h]
    · split_ifs
      · simp
      · simp
      · split <;> simp_all
  · simp

omit [Inhabited α] in
theorem testAt_eq_some {sa sb : SphereLink α} {p : LinkPair α} :
    testAt centre sa sb = some p ↔ ¬(sa.static = true ∧ sb.static = true) ∧
      ∃ c, contactOf (centre sa.link) (centre sb.link) sa.radius sb.radius = some c ∧
        p = ⟨sa.link, sb.link, #[c]⟩ := by
  unfold testAt
  by_cases hs : sa.static = true ∧ sb.static = true
  · rw [if_pos (by rw [Bool.and_eq_true]; exact hs)]
    exact iff_of_false (by simp) fun h => h.1 hs
  · rw [if_neg (by rw [Bool.and_eq_true]; exact hs)]
    cases hc : contactOf (centre sa.link) (centre sb.link) sa.radius sb.radius with
    | none => simp
    | some c =>
      rw [Option.map_some, Option.some.injEq]
      exact ⟨fun h => ⟨hs, c, rfl, h.symm⟩, fun ⟨_, c', hc', hp⟩ => by cases hc'; exact hp.symm⟩

omit [Inhabited α] in
theorem filterMap_links_sublist (l : List (SphereLink α × SphereLink α)) :
    ((l.filterMap fun q => testAt centre q.1 q.2).map fun p => (p.linkA, p.linkB)).Sublist
      (l.map fun q => (q.1.link, q.2.link)) :=
  filterMap_map_sublist l _ _ _ fun q p hq => by
    obtain ⟨-, c, -, rfl⟩ := (testAt_eq_some centre).1 hq
    rfl

theorem pairsAt_toList (d : SphereDetector α) :
    (d.pairsAt centre parent).toList =
      (candidates d parent).filterMap fun q => testAt centre q.1 q.2 := by
  unfold pairsAt candidates
  dsimp only
  rw [@Array.foldl_toList_eq_flatMap _ _ _ _ _ (fun i => (ownPairs d.bodies[i]! parent ++
      (List.range d.bodies.size).flatMap fun j =>
        if j ≤ i then [] else crossPairs d.bodies[i]! d.bodies[j]!).filterMap
      fun q => testAt centre q.1 q.2) fun acc i => ?_, List.filterMap_flatMap]
  · simp only [List.nil_append]
  -- body `i`: its own pairs, then its pairs with the later bodies
  rw [@Array.foldl_toList_eq_flatMap _ _ _ _ _ (fun j => if j ≤ i then []
      else (crossPairs d.bodies[i]! d.bodies[j]!).filterMap fun q => testAt centre q.1 q.2)
      fun acc j => ?_, List.filterMap_append, List.filterMap_flatMap, ← List.append_assoc,
    ← ownFold_toList centre parent d.bodies[i]! acc]
  · congr 2
    funext j
    split_ifs <;> rfl
  · split_ifs
    · simp
    · exact crossFold_toList centre _ _ acc

end Detection

/-! ## Contacts of real spheres -/

theorem ofScientific_zero_real : (0.0 : ℝ) = 0 := by norm_num

theorem ofScientific_one_real : (1.0 : ℝ) = 1 := by norm_num

theorem ofScientific_two_real : (2.0 : ℝ) = 2 := by norm_num

/-- What the contact of spheres at centres `ca`, `cb` with radii `ra`, `rb`
holds: the depth is their overlap, in `(0, ra + rb]`; the normal is the unit
vector from `ca` towards `cb`, or `z` when the centres coincide; the point is
`ca` moved along the normal by `ra` less half the depth, midway between the
two surfaces along the normal. -/
structure ContactOf (ca cb : Vec3 ℝ) (ra rb : ℝ) (c : Contact ℝ) : Prop where
  depth_eq : c.depth = ra + rb - (cb - ca).length
  depth_pos : 0 < c.depth
  depth_le : c.depth ≤ ra + rb
  normal_of_ne : cb ≠ ca → c.normal = (cb - ca).scale (cb - ca).length⁻¹
  normal_of_eq : cb = ca → c.normal = Vec3.unitZ
  normal_length : c.normal.length = 1
  point_eq : c.point = ca + c.normal.scale (ra - c.depth / 2)
  point_midway : c.point - (ca + c.normal.scale ra) = cb - c.normal.scale rb - c.point

variable {ca cb : Vec3 ℝ} {ra rb : ℝ}

theorem point_midway_of {n : Vec3 ℝ} {dist : ℝ} (hcb : cb - ca = n.scale dist) :
    ca + n.scale (ra - (ra + rb - dist) / 2) - (ca + n.scale ra) =
      cb - n.scale rb - (ca + n.scale (ra - (ra + rb - dist) / 2)) := by
  have hx := congrArg Vec3.x hcb
  have hy := congrArg Vec3.y hcb
  have hz := congrArg Vec3.z hcb
  simp only [Vec3.sub_def, Vec3.scale] at hx hy hz
  ext <;> simp only [Vec3.add_def, Vec3.sub_def, Vec3.scale]
  · linear_combination -hx
  · linear_combination -hy
  · linear_combination -hz

theorem contactOf_eq_none_iff : contactOf ca cb ra rb = none ↔ ra + rb ≤ (cb - ca).length := by
  unfold contactOf
  dsimp only
  rw [ofScientific_zero_real]
  split_ifs with h
  · exact iff_of_true rfl (by linarith)
  · exact iff_of_false (by simp) (by linarith)

theorem contactOf_spec {c : Contact ℝ} (h : contactOf ca cb ra rb = some c) :
    ContactOf ca cb ra rb c := by
  unfold contactOf at h
  dsimp only at h
  rw [ofScientific_zero_real] at h
  split_ifs at h with hd hpos
  · -- centres apart: the normal is the direction between them
    obtain rfl := Option.some.inj h
    have hne : cb ≠ ca := fun heq => by
      rw [heq, Vec3.length_sub_self] at hpos
      exact lt_irrefl _ hpos
    refine ⟨rfl, by linarith, by linarith [Vec3.length_nonneg (cb - ca)],
      fun _ => by rw [ofScientific_one_real, one_div], fun heq => absurd heq hne, ?_,
      by rw [ofScientific_two_real], ?_⟩
    · rw [Vec3.length_scale, ofScientific_one_real, one_div, abs_inv, abs_of_pos hpos,
        inv_mul_cancel₀ hpos.ne']
    · rw [ofScientific_two_real]
      refine point_midway_of ?_
      rw [ofScientific_one_real]
      exact Vec3.scale_inv_scale _ hpos.ne'
  · -- coinciding centres: the normal is `z`
    obtain rfl := Option.some.inj h
    have hzero : (cb - ca).length = 0 := le_antisymm (not_lt.1 hpos) (Vec3.length_nonneg _)
    have heq : cb = ca := Vec3.eq_of_length_sub_eq_zero hzero
    refine ⟨rfl, by linarith, by linarith, fun hne => absurd heq hne, fun _ => rfl,
      Vec3.length_unitZ, by rw [ofScientific_two_real], ?_⟩
    rw [ofScientific_two_real]
    refine point_midway_of ?_
    rw [hzero, heq]
    ext <;> simp [Vec3.sub_def, Vec3.scale]

theorem ContactOf.unique {c c' : Contact ℝ} (h : ContactOf ca cb ra rb c)
    (h' : ContactOf ca cb ra rb c') : c = c' := by
  have hdepth : c.depth = c'.depth := h.depth_eq.trans h'.depth_eq.symm
  have hnormal : c.normal = c'.normal := by
    by_cases heq : cb = ca
    · rw [h.normal_of_eq heq, h'.normal_of_eq heq]
    · rw [h.normal_of_ne heq, h'.normal_of_ne heq]
  apply Contact.ext
  · rw [h.point_eq, h'.point_eq, hnormal, hdepth]
  · exact hnormal
  · exact hdepth

/-! ## What detection reports -/

/-- What detection reports at world centres `centre` and parents `parent`:
every tested pair of spheres, not both static, whose centres are closer than
the sum of the radii, with the one contact `ContactOf` describes; no pair of
links twice, and never both orders of one pair. -/
structure ReportsExactly (d : SphereDetector ℝ) (centre : LinkId → Vec3 ℝ)
    (parent : LinkId → Option LinkId) (found : List (LinkPair ℝ)) : Prop where
  mem_iff : ∀ p, p ∈ found ↔ ∃ i x j y c, Tested d parent i x j y ∧
    ¬((d.sphere i x).static = true ∧ (d.sphere j y).static = true) ∧
    (centre (d.sphere j y).link - centre (d.sphere i x).link).length <
      (d.sphere i x).radius + (d.sphere j y).radius ∧
    ContactOf (centre (d.sphere i x).link) (centre (d.sphere j y).link)
      (d.sphere i x).radius (d.sphere j y).radius c ∧
    p = ⟨(d.sphere i x).link, (d.sphere j y).link, #[c]⟩
  nodup : (found.map fun p => (p.linkA, p.linkB)).Nodup
  not_swapped : ∀ p ∈ found, ∀ p' ∈ found, ¬(p.linkA = p'.linkB ∧ p.linkB = p'.linkA)

variable {d : SphereDetector ℝ} (centre : LinkId → Vec3 ℝ) (parent : LinkId → Option LinkId)

theorem mem_pairsAt {p : LinkPair ℝ} :
    p ∈ (d.pairsAt centre parent).toList ↔ ∃ i x j y c, Tested d parent i x j y ∧
      ¬((d.sphere i x).static = true ∧ (d.sphere j y).static = true) ∧
      (centre (d.sphere j y).link - centre (d.sphere i x).link).length <
        (d.sphere i x).radius + (d.sphere j y).radius ∧
      ContactOf (centre (d.sphere i x).link) (centre (d.sphere j y).link)
        (d.sphere i x).radius (d.sphere j y).radius c ∧
      p = ⟨(d.sphere i x).link, (d.sphere j y).link, #[c]⟩ := by
  rw [pairsAt_toList, List.mem_filterMap]
  constructor
  · rintro ⟨q, hq, hp⟩
    obtain ⟨i, x, j, y, ht, rfl⟩ := (mem_candidates parent).1 hq
    obtain ⟨hs, c, hc, rfl⟩ := (testAt_eq_some centre).1 hp
    have hlt := not_le.1 fun hle => by rw [contactOf_eq_none_iff.2 hle] at hc; cases hc
    exact ⟨i, x, j, y, c, ht, hs, hlt, contactOf_spec hc, rfl⟩
  · rintro ⟨i, x, j, y, c, ht, hs, hlt, hc, rfl⟩
    -- overlapping spheres have a contact, and it is the one described
    obtain ⟨c', hc'⟩ := Option.ne_none_iff_exists'.1 fun h =>
      absurd (contactOf_eq_none_iff.1 h) (not_le.2 hlt)
    refine ⟨_, (mem_candidates parent).2 ⟨i, x, j, y, ht, rfl⟩,
      (testAt_eq_some centre).2 ⟨hs, c', hc', ?_⟩⟩
    rw [(contactOf_spec hc').unique hc]

theorem pairsAt_reportsExactly (hd : LinksDistinct d) :
    ReportsExactly d centre parent (d.pairsAt centre parent).toList := by
  refine ⟨fun p => mem_pairsAt centre parent, ?_, ?_⟩
  · rw [pairsAt_toList]
    exact (candidates_nodup parent hd).sublist (filterMap_links_sublist centre _)
  · rintro p hp p' hp' ⟨h₁, h₂⟩
    obtain ⟨i, x, j, y, c, ht, -, -, -, rfl⟩ := (mem_pairsAt centre parent).1 hp
    obtain ⟨i', x', j', y', c', ht', -, -, -, rfl⟩ := (mem_pairsAt centre parent).1 hp'
    -- the two pairs hold the same spheres, each ordered before the other
    obtain ⟨rfl, rfl⟩ := hd i x j' y' ht.body_lt ht'.other_body_lt ht.place_lt
      ht'.other_place_lt h₁
    obtain ⟨rfl, rfl⟩ := hd j y i' x' ht.other_body_lt ht'.body_lt ht.other_place_lt
      ht'.place_lt h₂
    rcases ht.ordered with hij | ⟨hij, -, hxy, -⟩ <;>
      rcases ht'.ordered with hji | ⟨hji, -, hyx, -⟩ <;> omega

/-! ## A detector with no candidate pair -/

theorem foldl_eq_zero {β : Type} {l : List β} {step : Nat → β → Nat} {a : Nat}
    (hmono : ∀ c b, c ≤ step c b) (h : l.foldl step a = 0) : a = 0 ∧ ∀ b ∈ l, step 0 b = 0 := by
  induction l generalizing a with
  | nil => exact ⟨h, fun _ hb => absurd hb List.not_mem_nil⟩
  | cons b l ih =>
    obtain ⟨hab, hl⟩ := ih h
    obtain rfl : a = 0 := Nat.eq_zero_of_le_zero ((hmono a b).trans hab.le)
    exact ⟨rfl, fun b' hb' => (List.mem_cons.1 hb').elim (fun h => h ▸ hab) (hl b')⟩

section Count

variable {α : Type} [Inhabited α] {d : SphereDetector α}

omit [Inhabited α] in
theorem sizes_of_makeReady (h : d.makeReady.2 = false) :
    (∀ i, i < d.bodies.size → d.bodies[i]!.selfCollision = true →
      d.bodies[i]!.links.size ≤ 1) ∧
    ∀ i j, i < j → j < d.bodies.size →
      d.bodies[i]!.links.size = 0 ∨ d.bodies[j]!.links.size = 0 := by
  unfold makeReady at h
  dsimp only at h
  rw [decide_eq_false_iff_not, not_lt, Nat.le_zero] at h
  -- every body's own count and count with later bodies are zero
  obtain ⟨-, hbody⟩ := foldl_eq_zero (fun c i => by omega) h
  refine ⟨fun i hi hself => ?_, fun i j hij hj => ?_⟩
  · have hi0 := hbody i (List.mem_range.2 hi)
    rw [if_pos hself] at hi0
    by_contra hm
    have : 2 * 1 ≤ d.bodies[i]!.links.size * (d.bodies[i]!.links.size - 1) :=
      Nat.mul_le_mul (by omega) (by omega)
    omega
  · have hi0 := hbody i (List.mem_range.2 (by omega))
    obtain ⟨-, hlater⟩ := foldl_eq_zero (fun c j => by split <;> omega) (show List.foldl (fun c j =>
        if j > i then c + d.bodies[i]!.links.size * d.bodies[j]!.links.size else c) 0
          (List.range d.bodies.size) = 0 by omega)
    have hj0 := hlater j (List.mem_range.2 hj)
    rw [if_pos hij, Nat.zero_add] at hj0
    exact Nat.mul_eq_zero.1 hj0

theorem candidates_eq_nil_of_makeReady (parent : LinkId → Option LinkId)
    (h : d.makeReady.2 = false) : candidates d parent = [] := by
  obtain ⟨hown, hlater⟩ := sizes_of_makeReady h
  rw [List.eq_nil_iff_forall_not_mem]
  intro q hq
  obtain ⟨i, x, j, y, ht, -⟩ := (mem_candidates parent).1 hq
  rcases ht.ordered with hij | ⟨rfl, hself, hxy, -⟩
  · have := ht.place_lt
    have := ht.other_place_lt
    rcases hlater i j hij ht.other_body_lt with h0 | h0 <;> omega
  · have := ht.other_place_lt
    have := hown i ht.body_lt hself
    omega

end Count

theorem detect_of_makeReady_false (d : SphereDetector) (a : Assembly)
    (h : d.makeReady.2 = false) : (d.makeReady.1.detect a).2 = #[] := by
  have hnil : candidates d.makeReady.1 (fun l => (a.link l).parent) = [] :=
    candidates_eq_nil_of_makeReady _ h
  have hready : d.makeReady.1.ready = true := rfl
  apply Array.toList_inj.1
  simp only [detect, hready, if_true]
  rw [pairsAt_toList, hnil]
  rfl

/-! ## Registration -/

theorem filterMap_sublist_of_keeps {β γ : Type} (l : List β) (F : β → Option γ) (k : γ → β)
    (hk : ∀ x y, F x = some y → k y = x) : ((l.filterMap F).map k).Sublist l := by
  simpa using filterMap_map_sublist l F k id hk

/-- `addBody` registers, in the body's order, exactly the links of the body
with a shape whose radius is not at most zero, each with that radius and
whether the link is static now, and leaves the detector unready. -/
theorem addBody_registers (e : SphereDetector) (a : Assembly) (b : BodyId) (s : Bool) :
    ∃ links : Array SphereLink, (e.addBody a b s).bodies = e.bodies.push ⟨b, s, links⟩ ∧
      (e.addBody a b s).ready = false ∧
      (links.toList.map (·.link)).Sublist (a.body b).links.toList ∧
      ∀ sl, sl ∈ links ↔ ∃ l ∈ (a.body b).links, ∃ sh, (a.link l).shape = some sh ∧
        ¬sh.geom.radius ≤ 0.0 ∧ sl = ⟨l, sh.geom.radius, a.isStatic l⟩ := by
  refine ⟨_, rfl, rfl, ?_, fun sl => ?_⟩
  · rw [Array.toList_filterMap]
    refine filterMap_sublist_of_keeps _ _ _ fun l sl h => ?_
    split at h
    · split_ifs at h
      cases h
      rfl
    · cases h
  · rw [Array.mem_filterMap]
    constructor
    · rintro ⟨l, hl, h⟩
      split at h
      · rename_i sh hsh
        split_ifs at h with hr
        cases h
        exact ⟨l, hl, sh, hsh, hr, rfl⟩
      · cases h
    · rintro ⟨l, hl, sh, hsh, hr, rfl⟩
      refine ⟨l, hl, ?_⟩
      rw [hsh]
      exact if_neg hr

/-! ## Sphere detection -/

/-- Sphere detection on real numbers, at any world centres of the links and any
parents: with no link registered twice, it reports exactly the tested pairs of
spheres that are not both static and overlap, each once and in registration
order, with the contact `ContactOf` describes.  A detector whose `makeReady`
answers `false` reports nothing at any pose of an assembly, and `addBody`
registers exactly the shaped links whose radius is not at most zero. -/
theorem sphere_detection_exact (d : SphereDetector ℝ) (centre : LinkId → Vec3 ℝ)
    (parent : LinkId → Option LinkId) (hd : LinksDistinct d) :
    ReportsExactly d centre parent (d.pairsAt centre parent).toList ∧
    (∀ (e : SphereDetector) (a : Assembly), e.makeReady.2 = false →
      (e.makeReady.1.detect a).2 = #[]) ∧
    ∀ (e : SphereDetector) (a : Assembly) (b : BodyId) (s : Bool),
      ∃ links : Array SphereLink, (e.addBody a b s).bodies = e.bodies.push ⟨b, s, links⟩ ∧
        (e.addBody a b s).ready = false ∧
        (links.toList.map (·.link)).Sublist (a.body b).links.toList ∧
        ∀ sl, sl ∈ links ↔ ∃ l ∈ (a.body b).links, ∃ sh, (a.link l).shape = some sh ∧
          ¬sh.geom.radius ≤ 0.0 ∧ sl = ⟨l, sh.geom.radius, a.isStatic l⟩ :=
  ⟨pairsAt_reportsExactly centre parent hd, detect_of_makeReady_false, addBody_registers⟩

/-- Two bodies of one unit sphere each, on links `0` and `1`. -/
def twoBalls : SphereDetector ℝ where
  bodies := #[⟨⟨0⟩, false, #[⟨⟨0⟩, 1, false⟩]⟩, ⟨⟨1⟩, false, #[⟨⟨1⟩, 1, false⟩]⟩]

theorem sphere_detection_exact_twoBalls :
    LinksDistinct twoBalls ∧
    ReportsExactly twoBalls (fun _ => Vec3.zero) (fun _ => none)
      (twoBalls.pairsAt (fun _ => Vec3.zero) fun _ => none).toList ∧
    (∀ (e : SphereDetector) (a : Assembly), e.makeReady.2 = false →
      (e.makeReady.1.detect a).2 = #[]) ∧
    ∀ (e : SphereDetector) (a : Assembly) (b : BodyId) (s : Bool),
      ∃ links : Array SphereLink, (e.addBody a b s).bodies = e.bodies.push ⟨b, s, links⟩ ∧
        (e.addBody a b s).ready = false ∧
        (links.toList.map (·.link)).Sublist (a.body b).links.toList ∧
        ∀ sl, sl ∈ links ↔ ∃ l ∈ (a.body b).links, ∃ sh, (a.link l).shape = some sh ∧
          ¬sh.geom.radius ≤ 0.0 ∧ sl = ⟨l, sh.geom.radius, a.isStatic l⟩ := by
  have hd : LinksDistinct twoBalls := by
    intro i x j y hi hj hx hy h
    change i < 2 at hi
    change j < 2 at hj
    interval_cases i <;> interval_cases j <;> simp_all [twoBalls, sphere]
  exact ⟨hd, sphere_detection_exact twoBalls (fun _ => Vec3.zero) (fun _ => none) hd⟩

end SphereDetector

end Multibody
