import Multibody.Proofs.Body.Tree

/-!
# Copies of an indexed body are indexed

`Assembly.cloneBody` copies a link tree depth first, appending each copy at
the end of the assembly, so the copies are numbered from the old size in
pre-order: the tree renumbered (`LinkTree.relabel`).

`CopiedLinks` says what copying a list of links leaves (`go_copies`, proved
child by child), and `CopiedBody` what copying a body leaves
(`cloneBody_copies`).  `updateLinkTree_indexed_and_cloned` gathers them:
link `i` of the copy is the copy of link `i`.
-/

namespace Multibody

instance : LawfulBEq CloneKey where
  eq_of_beq {k k'} h := by
    cases k <;> cases k' <;>
      simp_all [BEq.beq, instBEqCloneKey.beq, instBEqLinkId.beq, instBEqBodyId.beq]
    · rename_i b b'
      cases b
      cases b'
      simp_all
    · rename_i l l'
      cases l
      cases l'
      simp_all
  rfl {k} := by
    cases k <;> simp [BEq.beq, instBEqCloneKey.beq, instBEqLinkId.beq, instBEqBodyId.beq]

namespace CloneMap

variable (cm : CloneMap)

theorem lookup?_record_of_ne {k k' : CloneKey} (v : Nat) (h : k ≠ k') :
    (cm.record k' v).lookup? k = cm.lookup? k := by
  simp [lookup?, record, Array.find?_push, Ne.symm h]

theorem lookup?_record_self {k : CloneKey} (v : Nat) (h : cm.lookup? k = none) :
    (cm.record k v).lookup? k = some v := by
  simp only [lookup?, Option.map_eq_none_iff] at h
  simp [lookup?, record, Array.find?_push, h]

theorem lookup?_record_of_lookup? {k k' : CloneKey} {v : Nat} (w : Nat) (h : cm.lookup? k = some v) :
    (cm.record k' w).lookup? k = some v := by
  obtain ⟨e, he, rfl⟩ := Option.map_eq_some_iff.1 h
  simp [lookup?, record, Array.find?_push, he]

/-- `x'` is the copy of `x` under the map: the map sends the identity of `x`
to that of `x'`, and their contents agree. -/
def Copy {α β : Type} (key : Nat → CloneKey) (id : α → Nat) (contents : α → β) (x x' : α) : Prop :=
  cm.lookup? (key (id x)) = some (id x') ∧ contents x' = contents x

end CloneMap

/-- Keys whose copies carry a fresh identity rather than a link or body number. -/
def CloneKey.isIdentity : CloneKey → Bool
  | .shape _ | .materials _ => true
  | _ => false

namespace CloneMap

/-- `cm'` keeps every copy `cm` holds, and the identities of the shapes and
material tables it copied besides were issued while the counter went from `n`
to `n'`. -/
structure Grows (cm : CloneMap) (n : Nat) (cm' : CloneMap) (n' : Nat) : Prop where
  le : n ≤ n'
  keys : ∀ k v, cm.lookup? k = some v → cm'.lookup? k = some v
  fresh : ∀ k v, k.isIdentity → cm'.lookup? k = some v → cm.lookup? k = some v ∨ n ≤ v ∧ v < n'

namespace Grows

variable {cm cm' cm'' : CloneMap} {n n' n'' : Nat}

theorem refl (cm : CloneMap) (n : Nat) : cm.Grows n cm n :=
  ⟨Nat.le_refl n, fun _ _ h => h, fun _ _ _ h => .inl h⟩

theorem trans (h₁ : cm.Grows n cm' n') (h₂ : cm'.Grows n' cm'' n'') : cm.Grows n cm'' n'' where
  le := Nat.le_trans h₁.le h₂.le
  keys k v h := h₂.keys k v (h₁.keys k v h)
  fresh k v hk h := by
    rcases h₂.fresh k v hk h with h' | ⟨hlo, hhi⟩
    · rcases h₁.fresh k v hk h' with h'' | ⟨hlo', hhi'⟩
      · exact .inl h''
      · exact .inr ⟨hlo', Nat.lt_of_lt_of_le hhi' h₂.le⟩
    · exact .inr ⟨Nat.le_trans h₁.le hlo, hhi⟩

theorem record {k : CloneKey} (hk : k.isIdentity = false) (v : Nat) (n : Nat) : cm.Grows n (cm.record k v) n where
  le := Nat.le_refl n
  keys _ _ h := cm.lookup?_record_of_lookup? v h
  fresh k' _ hk' h := by
    have hne : k' ≠ k := by
      rintro rfl
      rw [hk] at hk'
      cases hk'
    rw [cm.lookup?_record_of_ne v hne] at h
    exact .inl h

theorem rel {α β : Type} (g : cm.Grows n cm' n') {key : Nat → CloneKey} {id : α → Nat} {contents : α → β}
    {o o' : Option α} (h : Option.Rel (cm.Copy key id contents) o o') : Option.Rel (cm'.Copy key id contents) o o' := by
  cases h with
  | none => exact .none
  | some h => exact .some ⟨g.keys _ _ h.1, h.2⟩

end Grows

end CloneMap

namespace LinkTree

mutual
/-- The tree with its links numbered from `n` in pre-order. -/
def relabel (n : Nat) : LinkTree → LinkTree
  | node _ ts => node ⟨n⟩ (relabelAll (n + 1) ts)
/-- Trees numbered from `n` in pre-order, one after another. -/
def relabelAll (n : Nat) : List LinkTree → List LinkTree
  | [] => []
  | t :: ts => relabel n t :: relabelAll (n + t.preorder.length) ts
end

@[simp] theorem relabel_node (n : Nat) (l : LinkId) (ts : List LinkTree) :
    relabel n (node l ts) = node ⟨n⟩ (relabelAll (n + 1) ts) := by
  simp [relabel]

@[simp] theorem relabelAll_nil (n : Nat) : relabelAll n [] = [] := by
  simp [relabelAll]

@[simp] theorem relabelAll_cons (n : Nat) (t : LinkTree) (ts : List LinkTree) :
    relabelAll n (t :: ts) = relabel n t :: relabelAll (n + t.preorder.length) ts := by
  simp [relabelAll]

@[simp] theorem root_relabel (n : Nat) (t : LinkTree) : (relabel n t).root = ⟨n⟩ := by
  cases t
  simp

theorem relabelAll_append (n : Nat) (ts us : List LinkTree) :
    relabelAll n (ts ++ us) = relabelAll n ts ++ relabelAll (n + (preorderAll ts).length) us := by
  induction ts generalizing n with
  | nil => simp
  | cons t ts ih => simp [ih, Nat.add_assoc]

mutual
theorem preorder_relabel (n : Nat) :
    ∀ t : LinkTree, (relabel n t).preorder = (List.range t.preorder.length).map fun k => (⟨n + k⟩ : LinkId)
  | node l ts => by
    rw [relabel_node, preorder_node, preorderAll_relabelAll, preorder_node, List.length_cons,
      List.range_succ_eq_map]
    simp [Function.comp_def, Nat.add_assoc, Nat.add_comm 1]
theorem preorderAll_relabelAll (n : Nat) :
    ∀ ts : List LinkTree, preorderAll (relabelAll n ts) =
      (List.range (preorderAll ts).length).map fun k => (⟨n + k⟩ : LinkId)
  | [] => by simp
  | t :: ts => by
    rw [relabelAll_cons, preorderAll_cons, preorderAll_cons, preorder_relabel, preorderAll_relabelAll,
      List.length_append, List.range_add, List.map_append, List.map_map]
    simp [Function.comp_def, Nat.add_assoc]
end

theorem length_preorder_relabel (n : Nat) (t : LinkTree) :
    (relabel n t).preorder.length = t.preorder.length := by
  simp [preorder_relabel]

theorem nodup_preorder_relabel (n : Nat) (t : LinkTree) : (relabel n t).preorder.Nodup := by
  rw [preorder_relabel]
  exact List.nodup_range.map fun i j h => by
    simp only [LinkId.mk.injEq] at h
    omega

theorem mem_preorder_relabel {n : Nat} {t : LinkTree} {x : LinkId} (hx : x ∈ (relabel n t).preorder) :
    n ≤ x.idx ∧ x.idx < n + t.preorder.length := by
  rw [preorder_relabel] at hx
  obtain ⟨k, hk, rfl⟩ := List.mem_map.1 hx
  simp only [List.mem_range] at hk
  exact ⟨Nat.le_add_right n k, Nat.add_lt_add_left hk n⟩

theorem lt_of_mem_tail_relabel {n : Nat} {t : LinkTree} {x : LinkId}
    (hx : x ∈ (relabel n t).preorder.tail) : n < x.idx := by
  cases t with
  | node l ts =>
    simp only [relabel_node, preorder_node, List.tail_cons, preorderAll_relabelAll] at hx
    obtain ⟨k, -, rfl⟩ := List.mem_map.1 hx
    simp only
    omega

theorem getElem_preorder_relabel {n : Nat} {t : LinkTree} {k : Nat}
    (h : k < (relabel n t).preorder.length) : (relabel n t).preorder[k] = ⟨n + k⟩ := by
  simp [preorder_relabel]

theorem root_mem_preorderAll {t : LinkTree} {ts : List LinkTree} (ht : t ∈ ts) :
    t.root ∈ preorderAll ts := by
  induction ts with
  | nil => simp at ht
  | cons u us ih =>
    rw [preorderAll_cons, List.mem_append]
    rcases List.mem_cons.1 ht with rfl | ht
    · left
      cases t
      simp
    · exact Or.inr (ih ht)

theorem preorder_subset_preorderAll {t : LinkTree} {ts : List LinkTree} (ht : t ∈ ts) :
    t.preorder ⊆ preorderAll ts := by
  induction ts with
  | nil => simp at ht
  | cons u us ih =>
    rw [preorderAll_cons]
    rcases List.mem_cons.1 ht with rfl | ht
    · exact List.subset_append_left _ _
    · exact fun x hx => List.mem_append_right _ (ih ht hx)

end LinkTree

/-- What a copy of a link takes over: all but its place in a tree (position,
parent, children and joint number), its body and its shape, which the copy
gets anew. -/
def Link.copied (l : Link) : Link :=
  { l with index := -1, parent := none, children := #[], body := none, jointId := -1, shape := none }

/-- What a copy of a body takes over: all but its tree (root, links and
joints) and its material table, which the copy gets anew. -/
def Body.copied (b : Body) : Body :=
  { b with root := none, links := #[], joints := #[], materials := none }

namespace Assembly

variable {a a' : Assembly}

theorem Spans.congr_on {t : LinkTree} (h : a.Spans t)
    (hc : ∀ x ∈ t.preorder, (a'.link x).children = (a.link x).children)
    (hp : ∀ x ∈ t.preorder.tail, (a'.link x).parent = (a.link x).parent) : a'.Spans t := by
  revert hc hp
  induction h with
  | node l ts hch hpar _ ih =>
    intro hc hp
    simp only [LinkTree.preorder_node, List.tail_cons, List.mem_cons] at hc hp
    refine .node l ts ?_ (fun u hu => ?_) (fun u hu => ?_)
    · rw [hc l (Or.inl rfl)]
      exact hch
    · rw [hp _ (LinkTree.root_mem_preorderAll hu)]
      exact hpar u hu
    · have hsub := LinkTree.preorder_subset_preorderAll hu
      exact ih u hu (fun x hx => hc x (Or.inr (hsub hx)))
        (fun x hx => hp x (hsub (List.mem_of_mem_tail hx)))

/-! ## Links, the clone map and the appending of children -/

theorem link_push (v : Link) (x : LinkId) :
    ({ a with links := a.links.push v } : Assembly).link x = if x.idx = a.links.size then v else a.link x := by
  unfold link
  simp only [Array.getD_eq_getD_getElem?, Array.getElem?_push]
  split <;> simp_all

section Append

variable (a : Assembly) (p c x : LinkId)

theorem appendChild_eq : a.appendChild p c =
    (a.modifyLink c fun l => { l with parent := some p }).modifyLink p
      fun l => { l with children := l.children.push c } := rfl

@[simp] theorem size_appendChild : (a.appendChild p c).links.size = a.links.size := by
  simp [appendChild_eq]

@[simp] theorem bodies_appendChild : (a.appendChild p c).bodies = a.bodies := rfl

theorem link_appendChild_of_ne (hp : p ≠ x) (hc : c ≠ x) : (a.appendChild p c).link x = a.link x := by
  rw [appendChild_eq, link_modifyLink_of_ne _ _ hp, link_modifyLink_of_ne _ _ hc]

theorem view_appendChild {β : Type} (g : Link → β)
    (hg : ∀ (l : Link) (q : Option LinkId) (cs : Array LinkId), g { l with parent := q, children := cs } = g l) :
    g ((a.appendChild p c).link x) = g (a.link x) := by
  rw [appendChild_eq, link_modifyLink, link_modifyLink]
  split <;> split
  · exact hg (a.link x) _ _
  · exact hg (a.link x) _ _
  · exact hg (a.link x) _ _
  · rfl

theorem children_appendChild_of_ne (hp : p ≠ x) :
    ((a.appendChild p c).link x).children = (a.link x).children := by
  rw [appendChild_eq, link_modifyLink_of_ne _ _ hp, link_modifyLink]
  split <;> rfl

theorem parent_appendChild_of_ne (hc : c ≠ x) :
    ((a.appendChild p c).link x).parent = (a.link x).parent := by
  rw [appendChild_eq, link_modifyLink, link_modifyLink_of_ne _ _ hc]
  split <;> rfl

theorem children_appendChild_self (hp : p.idx < a.links.size) :
    ((a.appendChild p c).link p).children = (a.link p).children.push c := by
  rw [appendChild_eq, link_modifyLink, if_pos ⟨rfl, by simpa using hp⟩, link_modifyLink]
  split <;> rfl

theorem parent_appendChild_self (hpc : p ≠ c) (hc : c.idx < a.links.size) :
    ((a.appendChild p c).link c).parent = some p := by
  rw [appendChild_eq, link_modifyLink_of_ne _ _ hpc, link_modifyLink, if_pos ⟨rfl, hc⟩]

theorem Spans.appendChild {a : Assembly} {t : LinkTree} (hs : a.Spans t) (hp : ∀ x ∈ t.preorder, p ≠ x)
    (hc : ∀ x ∈ t.preorder.tail, c ≠ x) : (a.appendChild p c).Spans t :=
  hs.congr_on (fun x hx => children_appendChild_of_ne a p c x (hp x hx))
    (fun x hx => parent_appendChild_of_ne a p c x (hc x hx))

end Append

/-! ## Shapes and material tables -/

/-- Copying something that carries an identity, on first use: the identity
the map records for it, or else the next fresh identity, recorded. -/
def copyIdentity (a : Assembly) (cm : CloneMap) (k : CloneKey) : Assembly × CloneMap × Nat :=
  match cm.lookup? k with
  | some id => (a, cm, id)
  | none => ({ a with nextIdentity := a.nextIdentity + 1 }, cm.record k a.nextIdentity, a.nextIdentity)

section Identity

variable (a : Assembly) (cm : CloneMap) (k : CloneKey)

@[simp] theorem links_copyIdentity : (a.copyIdentity cm k).1.links = a.links := by
  unfold copyIdentity
  split <;> rfl

@[simp] theorem bodies_copyIdentity : (a.copyIdentity cm k).1.bodies = a.bodies := by
  unfold copyIdentity
  split <;> rfl

@[simp] theorem pending_copyIdentity : (a.copyIdentity cm k).2.1.pending = cm.pending := by
  unfold copyIdentity
  split <;> rfl

theorem lookup?_copyIdentity_self : (a.copyIdentity cm k).2.1.lookup? k = some (a.copyIdentity cm k).2.2 := by
  unfold copyIdentity
  split
  · assumption
  · exact cm.lookup?_record_self _ ‹_›

theorem lookup?_copyIdentity_of_ne {k' : CloneKey} (h : k' ≠ k) :
    (a.copyIdentity cm k).2.1.lookup? k' = cm.lookup? k' := by
  unfold copyIdentity
  split
  · rfl
  · exact cm.lookup?_record_of_ne _ h

theorem grows_copyIdentity : cm.Grows a.nextIdentity (a.copyIdentity cm k).2.1 (a.copyIdentity cm k).1.nextIdentity := by
  unfold copyIdentity
  split
  · exact CloneMap.Grows.refl cm _
  · rename_i hk
    refine ⟨Nat.le_succ _, fun k' v h => cm.lookup?_record_of_lookup? _ h, fun k' v _ h => ?_⟩
    by_cases hk' : k' = k
    · subst hk'
      rw [cm.lookup?_record_self _ hk] at h
      cases h
      exact .inr ⟨Nat.le_refl _, Nat.lt_succ_self _⟩
    · rw [cm.lookup?_record_of_ne _ hk'] at h
      exact .inl h

end Identity

variable (cm : CloneMap)

theorem cloneShape_eq (s : Shape) : a.cloneShape cm s =
    ((a.copyIdentity cm (.shape s.id)).1, (a.copyIdentity cm (.shape s.id)).2.1,
      ⟨(a.copyIdentity cm (.shape s.id)).2.2, s.geom⟩) := by
  unfold cloneShape copyIdentity
  cases cm.lookup? (.shape s.id) <;> rfl

theorem cloneMaterials_eq (m : Materials) : a.cloneMaterials cm m =
    ((a.copyIdentity cm (.materials m.id)).1, (a.copyIdentity cm (.materials m.id)).2.1,
      ⟨(a.copyIdentity cm (.materials m.id)).2.2, m.table⟩) := by
  unfold cloneMaterials copyIdentity
  cases cm.lookup? (.materials m.id) <;> rfl

@[simp] theorem links_cloneShape (s : Shape) : (a.cloneShape cm s).1.links = a.links := by
  simp [cloneShape_eq]

@[simp] theorem bodies_cloneShape (s : Shape) : (a.cloneShape cm s).1.bodies = a.bodies := by
  simp [cloneShape_eq]

@[simp] theorem link_cloneShape (s : Shape) (x : LinkId) : (a.cloneShape cm s).1.link x = a.link x := by
  simp [link]

theorem lookup?_cloneShape (s : Shape) {k : CloneKey} (hk : ∀ i, k ≠ .shape i) :
    (a.cloneShape cm s).2.1.lookup? k = cm.lookup? k := by
  rw [cloneShape_eq]
  exact lookup?_copyIdentity_of_ne a cm _ (hk _)

theorem copy_cloneShape (s : Shape) :
    (a.cloneShape cm s).2.1.Copy .shape Shape.id Shape.geom s (a.cloneShape cm s).2.2 := by
  rw [cloneShape_eq]
  exact ⟨lookup?_copyIdentity_self a cm _, rfl⟩

theorem grows_cloneShape (s : Shape) :
    cm.Grows a.nextIdentity (a.cloneShape cm s).2.1 (a.cloneShape cm s).1.nextIdentity := by
  rw [cloneShape_eq]
  exact grows_copyIdentity a cm _

@[simp] theorem pending_cloneShape (s : Shape) : (a.cloneShape cm s).2.1.pending = cm.pending := by
  simp [cloneShape_eq]

@[simp] theorem links_cloneMaterials (m : Materials) : (a.cloneMaterials cm m).1.links = a.links := by
  simp [cloneMaterials_eq]

@[simp] theorem bodies_cloneMaterials (m : Materials) : (a.cloneMaterials cm m).1.bodies = a.bodies := by
  simp [cloneMaterials_eq]

theorem lookup?_cloneMaterials (m : Materials) {k : CloneKey} (hk : ∀ i, k ≠ .materials i) :
    (a.cloneMaterials cm m).2.1.lookup? k = cm.lookup? k := by
  rw [cloneMaterials_eq]
  exact lookup?_copyIdentity_of_ne a cm _ (hk _)

theorem copy_cloneMaterials (m : Materials) :
    (a.cloneMaterials cm m).2.1.Copy .materials Materials.id Materials.table m (a.cloneMaterials cm m).2.2 := by
  rw [cloneMaterials_eq]
  exact ⟨lookup?_copyIdentity_self a cm _, rfl⟩

theorem grows_cloneMaterials (m : Materials) :
    cm.Grows a.nextIdentity (a.cloneMaterials cm m).2.1 (a.cloneMaterials cm m).1.nextIdentity := by
  rw [cloneMaterials_eq]
  exact grows_copyIdentity a cm _

@[simp] theorem pending_cloneMaterials (m : Materials) : (a.cloneMaterials cm m).2.1.pending = cm.pending := by
  simp [cloneMaterials_eq]

/-! ## Copies of links -/

/-- `a'` and `cm'` hold new copies of the links `L` of `a`, made through
`cm`: the links of `a` are kept and the copies follow them in the order of
`L`, each taking over what its link has and a copy of its shape; the map
sends each link of `L` to its copy, keeps its other entries for links and
for everything but shapes, and grows only by shapes with fresh identities. -/
structure CopiedLinks (a : Assembly) (cm : CloneMap) (L : List LinkId) (a' : Assembly) (cm' : CloneMap) :
    Prop where
  size : a'.links.size = a.links.size + L.length
  old : ∀ x : LinkId, x.idx < a.links.size → a'.link x = a.link x
  bodies : a'.bodies = a.bodies
  copied : ∀ k (h : k < L.length), (a'.link ⟨a.links.size + k⟩).copied = (a.link L[k]).copied
  shapes : ∀ k (h : k < L.length),
    Option.Rel (cm'.Copy .shape Shape.id Shape.geom) (a.link L[k]).shape (a'.link ⟨a.links.size + k⟩).shape
  copies : ∀ k (h : k < L.length), cm'.lookup? (.link L[k]) = some (a.links.size + k)
  others : ∀ x ∉ L, cm'.lookup? (.link x) = cm.lookup? (.link x)
  unchanged : ∀ k, (∀ x, k ≠ .link x) → (∀ i, k ≠ .shape i) → cm'.lookup? k = cm.lookup? k
  grows : cm.Grows a.nextIdentity cm' a'.nextIdentity
  pending : cm'.pending = cm.pending

namespace CopiedLinks

variable {cm cm' cm'' : CloneMap} {L L' : List LinkId} {a'' : Assembly}

theorem jointType (h : CopiedLinks a cm L a' cm') (k : Nat) (hk : k < L.length) :
    (a'.link ⟨a.links.size + k⟩).jointType = (a.link L[k]).jointType := by
  have hview := congrArg Link.jointType (h.copied k hk)
  exact hview

theorem index_trans (h₁ : CopiedLinks a cm L a' cm') (j : Nat) :
    (⟨a.links.size + (j + L.length)⟩ : LinkId) = ⟨a'.links.size + j⟩ := by
  rw [h₁.size]
  congr 1
  omega

theorem trans (h₁ : CopiedLinks a cm L a' cm') (h₂ : CopiedLinks a' cm' L' a'' cm'')
    (hold : ∀ x ∈ L', x.idx < a.links.size) (hdisj : ∀ x ∈ L', x ∉ L) : CopiedLinks a cm (L ++ L') a'' cm'' := by
  -- the second step keeps the first step's copies, and copies links the first step kept
  have hleft : ∀ k, k < L.length → a''.link ⟨a.links.size + k⟩ = a'.link ⟨a.links.size + k⟩ :=
    fun k hk => h₂.old _ (by rw [h₁.size]; simp only; omega)
  have hright : ∀ j (hj : j < L'.length), a'.link L'[j] = a.link L'[j] :=
    fun j hj => h₁.old _ (hold _ (List.getElem_mem hj))
  have hsplit : ∀ k, k < (L ++ L').length → L.length ≤ k → ∃ j, ∃ _ : j < L'.length, k = j + L.length := by
    intro k hk hk₁
    obtain ⟨j, rfl⟩ := Nat.exists_eq_add_of_le' hk₁
    exact ⟨j, by simp only [List.length_append] at hk; omega, rfl⟩
  refine ⟨?_, fun x hx => ?_, h₂.bodies.trans h₁.bodies, fun k hk => ?_, fun k hk => ?_, fun k hk => ?_,
    fun x hx => ?_, fun k hl hs => (h₂.unchanged k hl hs).trans (h₁.unchanged k hl hs), h₁.grows.trans h₂.grows,
    h₂.pending.trans h₁.pending⟩
  · rw [h₂.size, h₁.size, List.length_append, Nat.add_assoc]
  · rw [h₂.old x (by rw [h₁.size]; omega), h₁.old x hx]
  -- each per-index field splits on whether the index falls in `L` or in `L'`
  · rcases Nat.lt_or_ge k L.length with hk₁ | hk₁
    · rw [List.getElem_append_left hk₁, hleft k hk₁, h₁.copied k hk₁]
    · obtain ⟨j, hj, rfl⟩ := hsplit k hk hk₁
      rw [← List.getElem_append_right' L hj, h₁.index_trans, h₂.copied j hj, hright j hj]
  · rcases Nat.lt_or_ge k L.length with hk₁ | hk₁
    · rw [List.getElem_append_left hk₁, hleft k hk₁]
      exact h₂.grows.rel (h₁.shapes k hk₁)
    · obtain ⟨j, hj, rfl⟩ := hsplit k hk hk₁
      rw [← List.getElem_append_right' L hj, h₁.index_trans, ← hright j hj]
      exact h₂.shapes j hj
  · rcases Nat.lt_or_ge k L.length with hk₁ | hk₁
    · rw [List.getElem_append_left hk₁, h₂.others _ (fun hmem => hdisj _ hmem (List.getElem_mem hk₁)),
        h₁.copies k hk₁]
    · obtain ⟨j, hj, rfl⟩ := hsplit k hk hk₁
      rw [← List.getElem_append_right' L hj, h₂.copies j hj, h₁.size]
      congr 1
      omega
  · rw [List.mem_append, not_or] at hx
    rw [h₂.others x hx.2, h₁.others x hx.1]

theorem appendChild (h : CopiedLinks a cm L a' cm') {p c : LinkId} (hp : a.links.size ≤ p.idx)
    (hc : a.links.size ≤ c.idx) : CopiedLinks a cm L (a'.appendChild p c) cm' where
  size := by rw [size_appendChild, h.size]
  old x hx := by
    rw [link_appendChild_of_ne _ _ _ _ (fun e => by subst e; omega) (fun e => by subst e; omega), h.old x hx]
  bodies := h.bodies
  copied k hk := by rw [view_appendChild _ _ _ _ Link.copied (fun _ _ _ => rfl), h.copied k hk]
  shapes k hk := by rw [view_appendChild _ _ _ _ Link.shape (fun _ _ _ => rfl)]; exact h.shapes k hk
  copies := h.copies
  others := h.others
  unchanged := h.unchanged
  grows := h.grows
  pending := h.pending

end CopiedLinks

/-! ## Copying a tree -/

/-- Copying one child of a link's copy: the child's tree is copied and
appended under the copy. -/
def copyChild (fuel : Nat) (x : Assembly × CloneMap × LinkId) (child : LinkId) : Assembly × CloneMap × LinkId :=
  ((cloneTree.go fuel x.1 x.2.1 child).1.appendChild x.2.2 (cloneTree.go fuel x.1 x.2.1 child).2.2,
   (cloneTree.go fuel x.1 x.2.1 child).2.1, x.2.2)

theorem copiedLinks_push {cm cm₀ : CloneMap} {l : LinkId} {a₀ : Assembly} {v : Link}
    (h : cm.lookup? (.link l) = none) (hlinks : a₀.links = a.links) (hbodies : a₀.bodies = a.bodies)
    (hkeys : ∀ k, (∀ i, k ≠ .shape i) → cm₀.lookup? k = cm.lookup? k)
    (hgrows : cm.Grows a.nextIdentity cm₀ a₀.nextIdentity) (hpending : cm₀.pending = cm.pending)
    (hv : v.copied = (a.link l).copied)
    (hshape : Option.Rel (cm₀.Copy .shape Shape.id Shape.geom) (a.link l).shape v.shape) :
    CopiedLinks a cm [l] { a₀ with links := a₀.links.push v } (cm₀.record (.link l) a₀.links.size) := by
  have hnew : ({ a₀ with links := a₀.links.push v } : Assembly).link ⟨a.links.size⟩ = v := by
    rw [link_push, if_pos (by rw [hlinks])]
  have hrecord : CloneMap.Grows cm₀ a₀.nextIdentity (cm₀.record (.link l) a₀.links.size) a₀.nextIdentity :=
    .record rfl _ _
  refine ⟨by simp [hlinks], fun x hx => ?_, hbodies, fun k hk => ?_, fun k hk => ?_, fun k hk => ?_,
    fun x hx => ?_, fun k hl hs => ?_, hgrows.trans hrecord, hpending⟩
  · rw [link_push, if_neg (by rw [hlinks]; omega)]
    simp [link, hlinks]
  · obtain rfl : k = 0 := by simpa using hk
    rw [List.getElem_singleton, Nat.add_zero, hnew]
    exact hv
  · obtain rfl : k = 0 := by simpa using hk
    rw [List.getElem_singleton, Nat.add_zero, hnew]
    exact hrecord.rel hshape
  · obtain rfl : k = 0 := by simpa using hk
    rw [List.getElem_singleton, CloneMap.lookup?_record_self _ _ (by rw [hkeys _ (by simp)]; exact h), hlinks]
    rfl
  · rw [List.mem_singleton] at hx
    rw [CloneMap.lookup?_record_of_ne _ _ (by simpa using hx), hkeys _ (by simp)]
  · rw [CloneMap.lookup?_record_of_ne _ _ (hl l), hkeys k hs]

theorem go_succ_of_fresh {fuel : Nat} {cm : CloneMap} {l : LinkId} (h : cm.lookup? (.link l) = none) :
    ∃ a₁ cm₁, cloneTree.go (fuel + 1) a cm l = (a.link l).children.foldl (copyChild fuel) (a₁, cm₁, ⟨a.links.size⟩) ∧
      CopiedLinks a cm [l] a₁ cm₁ ∧ (a₁.link ⟨a.links.size⟩).children = #[] ∧
      (a₁.link ⟨a.links.size⟩).parent = none := by
  simp only [cloneTree.go, h]
  cases hs : (a.link l).shape with
  | none =>
    let v : Link := { a.link l with parent := none, children := #[], body := none, shape := none }
    have hc := copiedLinks_push (v := v) h rfl rfl (fun _ _ => rfl) (.refl _ _) rfl rfl (by rw [hs]; exact .none)
    have hnew := link_push (a := a) v ⟨a.links.size⟩
    rw [if_pos rfl] at hnew
    exact ⟨_, _, rfl, hc, congrArg Link.children hnew, congrArg Link.parent hnew⟩
  | some s =>
    let v : Link := { a.link l with parent := none, children := #[], body := none,
                                    shape := some (a.cloneShape cm s).2.2 }
    have hc := copiedLinks_push (v := v)
      h (links_cloneShape _ _) (bodies_cloneShape _ _) (fun k hk => lookup?_cloneShape _ _ hk)
      (grows_cloneShape _ _) (pending_cloneShape _ _) rfl (by rw [hs]; exact .some (copy_cloneShape _ _))
    have hnew := link_push (a := (a.cloneShape cm s).1) v ⟨a.links.size⟩
    rw [if_pos (by rw [links_cloneShape])] at hnew
    simp only [addLink]
    rw [links_cloneShape] at hc hnew ⊢
    exact ⟨_, _, rfl, hc, congrArg Link.children hnew, congrArg Link.parent hnew⟩

/-- From any assembly that spans `t` with distinct links in range, through a
map holding no copy of them, `go` makes the copy of `t`: new links numbered
from the old size in pre-order, spanning the renumbered tree. -/
def CopiesTree (fuel : Nat) (t : LinkTree) : Prop :=
  ∀ (a : Assembly) (cm : CloneMap), a.Spans t → t.preorder.Nodup → (∀ x ∈ t.preorder, x.idx < a.links.size) →
    (∀ x ∈ t.preorder, cm.lookup? (.link x) = none) →
    (cloneTree.go fuel a cm t.root).2.2 = ⟨a.links.size⟩ ∧
      CopiedLinks a cm t.preorder (cloneTree.go fuel a cm t.root).1 (cloneTree.go fuel a cm t.root).2.1 ∧
      (cloneTree.go fuel a cm t.root).1.Spans (t.relabel a.links.size) ∧
      ((cloneTree.go fuel a cm t.root).1.link ⟨a.links.size⟩).parent = none

/-- Midway through copying the children of `l`: the copy `⟨a.links.size⟩` of
`l` is made, and the trees `us` of its first children are copied and
appended under it. -/
structure CopyingChildren (a : Assembly) (cm : CloneMap) (l : LinkId) (us : List LinkTree) (a' : Assembly)
    (cm' : CloneMap) : Prop where
  links : CopiedLinks a cm (l :: LinkTree.preorderAll us) a' cm'
  children : (a'.link ⟨a.links.size⟩).children.toList =
    (LinkTree.relabelAll (a.links.size + 1) us).map LinkTree.root
  subtrees : ∀ t ∈ LinkTree.relabelAll (a.links.size + 1) us,
    (a'.link t.root).parent = some ⟨a.links.size⟩ ∧ a'.Spans t
  parent : (a'.link ⟨a.links.size⟩).parent = none

theorem CopyingChildren.copyChild {cm cm' : CloneMap} {l : LinkId} {us : List LinkTree} {u : LinkTree}
    {fuel : Nat} (hc : CopyingChildren a cm l us a' cm') (hgo : CopiesTree fuel u) (hspan : a.Spans u)
    (hnd : u.preorder.Nodup) (hr : ∀ x ∈ u.preorder, x.idx < a.links.size)
    (hdisj : ∀ x ∈ u.preorder, x ∉ l :: LinkTree.preorderAll us)
    (hfresh : ∀ x ∈ u.preorder, cm.lookup? (.link x) = none) :
    (Assembly.copyChild fuel (a', cm', ⟨a.links.size⟩) u.root).2.2 = ⟨a.links.size⟩ ∧
      CopyingChildren a cm l (us ++ [u]) (Assembly.copyChild fuel (a', cm', ⟨a.links.size⟩) u.root).1
        (Assembly.copyChild fuel (a', cm', ⟨a.links.size⟩) u.root).2.1 := by
  have hsize := hc.links.size
  simp only [List.length_cons] at hsize
  -- the child's tree is still spanned, and none of its links is copied yet
  have hspan' : a'.Spans u := hspan.congr_on (fun x hx => by rw [hc.links.old x (hr x hx)])
    (fun x hx => by rw [hc.links.old x (hr x (List.mem_of_mem_tail hx))])
  have hfresh' : ∀ x ∈ u.preorder, cm'.lookup? (.link x) = none :=
    fun x hx => (hc.links.others x (hdisj x hx)).trans (hfresh x hx)
  obtain ⟨hroot, hlinks, hspanc, -⟩ := hgo a' cm' hspan' hnd (fun x hx => by rw [hsize]; have := hr x hx; omega)
    hfresh'
  set y := cloneTree.go fuel a' cm' u.root with hy
  have hysize := hlinks.size
  refine ⟨rfl, ?_⟩
  simp only [Assembly.copyChild, ← hy, hroot]
  have hbase : a.links.size < a'.links.size := by omega
  have hbase_ne : (⟨a.links.size⟩ : LinkId) ≠ ⟨a'.links.size⟩ := by simp only [ne_eq, LinkId.mk.injEq]; omega
  -- links: the copy so far, then the child's tree, both kept by the append
  have hall : LinkTree.preorderAll (us ++ [u]) = LinkTree.preorderAll us ++ u.preorder := by
    simp [LinkTree.preorderAll_append]
  refine ⟨?_, ?_, ?_, ?_⟩
  · have htrans := hc.links.trans hlinks hr (fun x hx hmem => hdisj x hx hmem)
    rw [hall, ← List.cons_append]
    exact htrans.appendChild (Nat.le_refl _) (by simp only; omega)
  · -- the new child comes last under the copy
    rw [children_appendChild_self _ _ _ (by simp only; rw [hysize]; omega), Array.toList_push,
      hlinks.old ⟨a.links.size⟩ hbase, hc.children, LinkTree.relabelAll_append, List.map_append]
    simp only [LinkTree.relabelAll_cons, LinkTree.relabelAll_nil, List.map_cons, LinkTree.root_relabel,
      List.map_nil]
    have hsize' : a'.links.size = a.links.size + 1 + (LinkTree.preorderAll us).length := by omega
    rw [hsize']
  · intro t ht
    rw [LinkTree.relabelAll_append, List.mem_append] at ht
    rcases ht with ht | ht
    · -- an earlier child's tree: its links lie between the copy and the new child
      obtain ⟨hpar, hsp⟩ := hc.subtrees t ht
      have hrange : ∀ x ∈ t.preorder, a.links.size < x.idx ∧ x.idx < a'.links.size := by
        intro x hx
        have hx' := LinkTree.preorder_subset_preorderAll ht hx
        rw [LinkTree.preorderAll_relabelAll] at hx'
        obtain ⟨k, hk, rfl⟩ := List.mem_map.1 hx'
        simp only [List.mem_range] at hk
        simp only
        omega
      have hne : ∀ x ∈ t.preorder, (⟨a.links.size⟩ : LinkId) ≠ x ∧ (⟨a'.links.size⟩ : LinkId) ≠ x := by
        intro x hx
        have := hrange x hx
        constructor <;> (intro e; subst e; simp only at this; omega)
      have hkeep : ∀ x ∈ t.preorder, y.1.link x = a'.link x := fun x hx => hlinks.old x (hrange x hx).2
      have hroot_mem : t.root ∈ t.preorder := by
        cases t
        simp
      have hsp' : y.1.Spans t := hsp.congr_on (fun x hx => by rw [hkeep x hx])
        (fun x hx => by rw [hkeep x (List.mem_of_mem_tail hx)])
      refine ⟨?_, hsp'.appendChild _ _ (fun x hx => (hne x hx).1) (fun x hx => (hne x (List.mem_of_mem_tail hx)).2)⟩
      rw [parent_appendChild_of_ne _ _ _ _ (hne _ hroot_mem).2, hkeep _ hroot_mem]
      exact hpar
    · -- the new child's tree, appended under the copy
      have hsize' : a.links.size + 1 + (LinkTree.preorderAll us).length = a'.links.size := by omega
      simp only [hsize', LinkTree.relabelAll_cons, LinkTree.relabelAll_nil, List.mem_singleton] at ht
      subst ht
      have hpos : 0 < u.preorder.length := List.length_pos_iff.2 (LinkTree.preorder_ne_nil u)
      refine ⟨?_, hspanc.appendChild _ _ (fun x hx e => ?_) (fun x hx e => ?_)⟩
      · rw [LinkTree.root_relabel, parent_appendChild_self _ _ _ hbase_ne (by simp only; omega)]
      · -- the copy of the parent comes before the child's tree
        have := (LinkTree.mem_preorder_relabel hx).1
        subst e
        simp only at this
        omega
      · -- the child's root is the first of its tree
        have := LinkTree.lt_of_mem_tail_relabel hx
        subst e
        simp only at this
        omega
  · -- the copy itself stays without a parent
    rw [parent_appendChild_of_ne _ _ _ _ hbase_ne.symm, hlinks.old ⟨a.links.size⟩ hbase]
    exact hc.parent

theorem LinkTree.length_preorder_le_of_mem {t : LinkTree} {ts : List LinkTree} (ht : t ∈ ts) :
    t.preorder.length ≤ (LinkTree.preorderAll ts).length := by
  induction ts with
  | nil => simp at ht
  | cons u us ih =>
    rw [LinkTree.preorderAll_cons, List.length_append]
    rcases List.mem_cons.1 ht with rfl | ht
    · omega
    · have := ih ht
      omega

theorem CopyingChildren.foldl {cm : CloneMap} {l : LinkId} {fuel : Nat} :
    ∀ (vs us : List LinkTree) (a' : Assembly) (cm' : CloneMap), CopyingChildren a cm l us a' cm' →
      (∀ u ∈ vs, CopiesTree fuel u ∧ a.Spans u) → (l :: LinkTree.preorderAll (us ++ vs)).Nodup →
      (∀ x ∈ LinkTree.preorderAll vs, x.idx < a.links.size) →
      (∀ x ∈ LinkTree.preorderAll vs, cm.lookup? (.link x) = none) →
      ((vs.map LinkTree.root).foldl (Assembly.copyChild fuel) (a', cm', ⟨a.links.size⟩)).2.2 = ⟨a.links.size⟩ ∧
        CopyingChildren a cm l (us ++ vs) ((vs.map LinkTree.root).foldl (Assembly.copyChild fuel) (a', cm', ⟨a.links.size⟩)).1
          ((vs.map LinkTree.root).foldl (Assembly.copyChild fuel) (a', cm', ⟨a.links.size⟩)).2.1
  | [], us, a', cm', hc, _, _, _, _ => by simpa using hc
  | v :: vs, us, a', cm', hc, hgo, hnd, hr, hfresh => by
    -- the tree of `v` is distinct from everything copied before it
    have hsplit : l :: LinkTree.preorderAll (us ++ v :: vs) =
        (l :: LinkTree.preorderAll us) ++ (v.preorder ++ LinkTree.preorderAll vs) := by
      simp [LinkTree.preorderAll_append]
    rw [hsplit] at hnd
    obtain ⟨-, hnd₂, hdisj⟩ := List.nodup_append.1 hnd
    have hndv : v.preorder.Nodup := (List.nodup_append.1 hnd₂).1
    simp only [LinkTree.preorderAll_cons, List.mem_append] at hr hfresh
    obtain ⟨hroot, hstep⟩ := hc.copyChild (hgo v (List.mem_cons_self ..)).1 (hgo v (List.mem_cons_self ..)).2
      hndv (fun x hx => hr x (Or.inl hx)) (fun x hx hmem => hdisj x hmem x (List.mem_append_left _ hx) rfl)
      (fun x hx => hfresh x (Or.inl hx))
    have heta : Assembly.copyChild fuel (a', cm', ⟨a.links.size⟩) v.root =
        ((Assembly.copyChild fuel (a', cm', ⟨a.links.size⟩) v.root).1,
          (Assembly.copyChild fuel (a', cm', ⟨a.links.size⟩) v.root).2.1, ⟨a.links.size⟩) :=
      Prod.ext rfl (Prod.ext rfl hroot)
    rw [List.map_cons, List.foldl_cons, heta]
    have := CopyingChildren.foldl vs (us ++ [v]) _ _ hstep (fun u hu => hgo u (List.mem_cons_of_mem _ hu))
      (by simpa [LinkTree.preorderAll_append] using hnd) (fun x hx => hr x (Or.inr hx))
      (fun x hx => hfresh x (Or.inr hx))
    simpa using this

theorem go_copies : ∀ (fuel : Nat) (t : LinkTree), t.preorder.length ≤ fuel → CopiesTree fuel t
  | 0, t, hlen => absurd hlen (by
      have := List.length_pos_iff.2 (LinkTree.preorder_ne_nil t)
      omega)
  | fuel + 1, .node l ts, hlen => by
    intro a cm hspan hnd hr hfresh
    obtain ⟨hch, hpar, hsub⟩ : (a.link l).children.toList = ts.map LinkTree.root ∧
        (∀ t ∈ ts, (a.link t.root).parent = some l) ∧ ∀ t ∈ ts, a.Spans t := by
      cases hspan with
      | node _ _ hch hpar hsub => exact ⟨hch, hpar, hsub⟩
    simp only [LinkTree.preorder_node, List.length_cons, List.mem_cons, forall_eq_or_imp] at hlen hnd hr hfresh
    obtain ⟨a₁, cm₁, hgo, hc₁, hch₁, hpar₁⟩ := @go_succ_of_fresh a fuel cm l hfresh.1
    have hstart : CopyingChildren a cm l [] a₁ cm₁ := ⟨by simpa using hc₁, by simp [hch₁], by simp, hpar₁⟩
    obtain ⟨h3, hcc⟩ := CopyingChildren.foldl ts [] a₁ cm₁ hstart
      (fun u hu => ⟨go_copies fuel u (by have := LinkTree.length_preorder_le_of_mem hu; omega), hsub u hu⟩)
      (by simpa using hnd) hr.2 hfresh.2
    simp only [List.nil_append] at hcc
    rw [LinkTree.root_node, hgo, ← Array.foldl_toList, hch]
    refine ⟨h3, by simpa using hcc.links, ?_, hcc.parent⟩
    rw [LinkTree.relabel_node]
    exact .node _ _ hcc.children (fun t ht => (hcc.subtrees t ht).1) (fun t ht => (hcc.subtrees t ht).2)

/-! ## Copying a body -/

theorem hasParentBody_of_owner {x y : Assembly} {l : Link} (hl : l.body = some b)
    (h : ∀ p, (y.link p).body = some b ↔ (x.link p).body = some b) : y.hasParentBody l = x.hasParentBody l := by
  unfold hasParentBody
  cases l.parent with
  | none => rfl
  | some p =>
    rw [hl, Bool.eq_iff_iff, bne_iff_ne, bne_iff_ne, ne_eq, ne_eq, h p]

theorem Indexed.body_of_le_relabel {c : BodyId} {t : LinkTree} {n : Nat} (h : a.Indexed c (t.relabel n))
    (hsize : a.links.size = n + t.preorder.length) {x : LinkId} (hx : n ≤ x.idx) :
    (a.link x).body = some c ∨ (a.link x).body = none := by
  by_cases hin : x.idx < n + t.preorder.length
  · left
    refine h.body x ?_
    rw [← Array.mem_toList_iff, h.links, LinkTree.preorder_relabel]
    refine List.mem_map.2 ⟨x.idx - n, List.mem_range.2 (by omega), ?_⟩
    rw [show n + (x.idx - n) = x.idx by omega]
  · right
    have hdef : a.link x = default := by
      simp [link, Array.getD_eq_getD_getElem?, hsize, Nat.le_of_not_lt hin]
    rw [hdef]
    rfl

/-- What adding a body `B` over a tree of links already there and indexing it
leaves in `a'`: the new body is `B` with its lists of links and joints made,
indexed over the tree; the tree's links lose only their place and owner, and
every other link and body is as it was. -/
structure AddedIndexed (a : Assembly) (B : Body) (t : LinkTree) (a' : Assembly) : Prop where
  indexed : a'.Indexed ⟨a.bodies.size⟩ t
  body : ∃ ls js, a'.body ⟨a.bodies.size⟩ = { B with links := ls, joints := js }
  oldBodies : ∀ d : BodyId, d.idx < a.bodies.size → a'.body d = a.body d
  link : ∀ x ∉ t.preorder, a'.link x = a.link x
  view : ∀ {β : Type} (g : Link → β),
    (∀ (lk : Link) (i j : Int), g { lk with index := i, body := some ⟨a.bodies.size⟩, jointId := j } = g lk) →
    ∀ x, g (a'.link x) = g (a.link x)
  size : a'.links.size = a.links.size
  size_bodies : a'.bodies.size = a.bodies.size + 1
  nextIdentity : a'.nextIdentity = a.nextIdentity

theorem body_push_bodies (B : Body) (d : BodyId) :
    ({ a with bodies := a.bodies.push B } : Assembly).body d = if d.idx = a.bodies.size then B else a.body d := by
  simp only [body, Array.getD_eq_getD_getElem?, Array.getElem?_push]
  split <;> simp

theorem addedIndexed_push {B : Body} {t : LinkTree} (hroot : B.root = some t.root) (hspan : a.Spans t)
    (hnd : t.preorder.Nodup) (hr : ∀ x ∈ t.preorder, x.idx < a.links.size) :
    AddedIndexed a B t (({ a with bodies := a.bodies.push B } : Assembly).updateLinkTree ⟨a.bodies.size⟩) := by
  -- the body is added with no link moved, so the tree facts carry over
  have hroot' : (({ a with bodies := a.bodies.push B } : Assembly).body ⟨a.bodies.size⟩).root = some t.root := by
    rw [body_push_bodies, if_pos rfl, hroot]
  have hspan' : ({ a with bodies := a.bodies.push B } : Assembly).Spans t :=
    hspan.congr (fun _ => by rfl) (fun _ => by rfl)
  refine ⟨updateLinkTree_indexed hroot' hspan' hnd hr, ?_, fun d hd => ?_,
    fun x hx => link_updateLinkTree_of_not_mem hroot' hspan' hnd hr hx,
    fun g hg x => updateLinkTree_keeps hroot' hspan' hnd hr g hg x, size_updateLinkTree hroot' hspan' hnd hr, ?_,
    nextIdentity_updateLinkTree hroot' hspan' hnd hr⟩
  · obtain ⟨ls, js, h⟩ := body_updateLinkTree hroot' hspan' hnd hr ⟨a.bodies.size⟩
    rw [h, if_pos rfl, body_push_bodies, if_pos rfl]
    exact ⟨ls, js, rfl⟩
  · obtain ⟨ls, js, h⟩ := body_updateLinkTree hroot' hspan' hnd hr d
    have hne : d ≠ ⟨a.bodies.size⟩ := fun e => by subst e; simp only at hd; omega
    rw [h, if_neg hne, body_push_bodies, if_neg (by omega)]
  · rw [size_bodies_updateLinkTree hroot' hspan' hnd hr, Array.size_push]

/-- `a'` and `cm'` hold a new copy `c` of body `b` of `a`, made through `cm`
over the tree `t` of `b`.  The copy is a new body after the old ones that
takes over what `b` has, with a copy of its material table; its links are new
links numbered from the old size in the pre-order of `t`, each a copy of its
link, the copy of the root without a parent, and it is indexed over the tree
renumbered.  The map sends `b` to `c` and each link of `t` to its copy, keeps
its other entries for links and bodies, and grows only by shapes and material
tables with fresh identities; when `b` hangs from another body, the copy
waits for the copy of that parent. -/
structure CopiedBody (a : Assembly) (cm : CloneMap) (b : BodyId) (t : LinkTree) (a' : Assembly)
    (cm' : CloneMap) (c : BodyId) : Prop where
  id : c = ⟨a.bodies.size⟩
  size_bodies : a'.bodies.size = a.bodies.size + 1
  oldBodies : ∀ d : BodyId, d.idx < a.bodies.size → a'.body d = a.body d
  body : (a'.body c).copied = (a.body b).copied
  materials : Option.Rel (cm'.Copy .materials Materials.id Materials.table) (a.body b).materials
    (a'.body c).materials
  indexed : a'.Indexed c (t.relabel a.links.size)
  rootParent : (a'.link ⟨a.links.size⟩).parent = none
  size : a'.links.size = a.links.size + t.preorder.length
  old : ∀ x : LinkId, x.idx < a.links.size → a'.link x = a.link x
  copied : ∀ k (h : k < t.preorder.length), (a'.link ⟨a.links.size + k⟩).copied = (a.link t.preorder[k]).copied
  shapes : ∀ k (h : k < t.preorder.length),
    Option.Rel (cm'.Copy .shape Shape.id Shape.geom) (a.link t.preorder[k]).shape (a'.link ⟨a.links.size + k⟩).shape
  copies : ∀ k (h : k < t.preorder.length), cm'.lookup? (.link t.preorder[k]) = some (a.links.size + k)
  self : cm'.lookup? (.body b) = some c.idx
  others : ∀ x ∉ t.preorder, cm'.lookup? (.link x) = cm.lookup? (.link x)
  bodyKeys : ∀ d, d ≠ b → cm'.lookup? (.body d) = cm.lookup? (.body d)
  grows : cm.Grows a.nextIdentity cm' a'.nextIdentity
  pending : (a.link t.root).body = some b →
    cm'.pending = cm.pending ++ ((a.parentBodyLink? b).map fun p => (c, p)).toArray

theorem cloneBody_copies {cm : CloneMap} {t : LinkTree} (hroot : (a.body b).root = some t.root)
    (hspan : a.Spans t) (hnd : t.preorder.Nodup) (hr : ∀ l ∈ t.preorder, l.idx < a.links.size)
    (hb : cm.lookup? (.body b) = none) (hfresh : ∀ l ∈ t.preorder, cm.lookup? (.link l) = none) :
    ∃ a' cm' c, a.cloneBody cm b = .ok (a', cm', c) ∧ CopiedBody a cm b t a' cm' c := by
  unfold cloneBody
  split
  · rename_i c hc
    rw [hb] at hc
    cases hc
  lift_lets
  intro orig
  split
  rename_i a₁ cm₁ mats hM
  -- copying the material table touches no link, body or entry but its own
  obtain ⟨hl₁, hb₁, hk₁, hg₁, hp₁, hm₁⟩ : a₁.links = a.links ∧ a₁.bodies = a.bodies ∧
      (∀ k, (∀ i, k ≠ .materials i) → cm₁.lookup? k = cm.lookup? k) ∧
      cm.Grows a.nextIdentity cm₁ a₁.nextIdentity ∧ cm₁.pending = cm.pending ∧
      Option.Rel (cm₁.Copy .materials Materials.id Materials.table) orig.materials mats := by
    cases hm : orig.materials <;> simp only [hm, Prod.mk.injEq] at hM <;> obtain ⟨rfl, rfl, rfl⟩ := hM
    · exact ⟨rfl, rfl, fun _ _ => rfl, .refl _ _, rfl, .none⟩
    · exact ⟨links_cloneMaterials _ _, bodies_cloneMaterials _ _, fun k hk => lookup?_cloneMaterials _ _ hk,
        grows_cloneMaterials _ _, pending_cloneMaterials _ _, .some (copy_cloneMaterials _ _)⟩
  have hlink₁ : ∀ x, a₁.link x = a.link x := by simp [link, hl₁]
  have hbody₁ : a₁.body b = a.body b := by simp only [body, hb₁]
  have hrootOf : a₁.rootOf b = pure t.root := by simp only [rootOf, hbody₁, hroot]; rfl
  rw [hrootOf, pure_bind]
  generalize hT : a₁.cloneTree cm₁ t.root = T
  obtain ⟨a₂, cm₂, croot⟩ := T
  refine ⟨_, _, _, rfl, ?_⟩
  -- the tree is copied link by link behind the links there were
  obtain ⟨hcroot, hcopied, hspan₂, hpar₂⟩ := go_copies (a₁.links.size + 1) t
    (by rw [hl₁]; exact Nat.le_succ_of_le (length_le_of_nodup hnd hr)) a₁ cm₁
    (hspan.congr (fun x => by rw [hlink₁]) (fun x => by rw [hlink₁])) hnd (by rw [hl₁]; exact hr)
    (fun x hx => by rw [hk₁ _ (fun _ => by simp)]; exact hfresh x hx)
  rw [show cloneTree.go (a₁.links.size + 1) a₁ cm₁ t.root = (a₂, cm₂, croot) from hT] at hcroot hcopied hspan₂ hpar₂
  simp only [hl₁] at hcroot hcopied hspan₂ hpar₂
  have hsize₂ : a₂.bodies.size = a.bodies.size := by rw [hcopied.bodies, hb₁]
  -- the copy's body is added with the copied root, then indexed
  generalize hB : ({ name := orig.name, modelName := orig.modelName, root := some croot,
                     devices := orig.devices, materials := mats, staticModel := orig.staticModel } : Body) = B
  have hr₂ : ∀ x ∈ (t.relabel a.links.size).preorder, x.idx < a₂.links.size := by
    intro x hx
    have := LinkTree.mem_preorder_relabel hx
    rw [hcopied.size, hl₁]
    omega
  have hrootB : B.root = some (t.relabel a.links.size).root := by rw [← hB, LinkTree.root_relabel, hcroot]
  have hadd := addedIndexed_push hrootB hspan₂ (LinkTree.nodup_preorder_relabel a.links.size t) hr₂
  set a₄ := ({ a₂ with bodies := a₂.bodies.push B } : Assembly).updateLinkTree ⟨a₂.bodies.size⟩
  -- indexing the copy changes only the copy's links, and of them only places and owner
  have hout₄ : ∀ x, x.idx < a.links.size → a₄.link x = a.link x := by
    intro x hx
    rw [hadd.link x (fun hmem => by have := (LinkTree.mem_preorder_relabel hmem).1; omega),
      hcopied.old x (by rw [hl₁]; exact hx), hlink₁]
  have hbody₄ : ∀ d : BodyId, d.idx < a.bodies.size → a₄.body d = a.body d := by
    intro d hd
    rw [hadd.oldBodies d (by rw [hsize₂]; exact hd)]
    simp only [body, hcopied.bodies, hb₁]
  have hcopy₄ : (a₄.body ⟨a₂.bodies.size⟩).copied = orig.copied ∧ (a₄.body ⟨a₂.bodies.size⟩).materials = mats := by
    obtain ⟨ls, js, h⟩ := hadd.body
    rw [h, ← hB]
    exact ⟨rfl, rfl⟩
  have hsize₄ : a₄.links.size = a.links.size + t.preorder.length := by
    rw [hadd.size, hcopied.size, hl₁]
  -- the root of the copy is a link of the copy; every other copied link, of no body
  have hmount : ∀ p : LinkId, (a₄.link p).body = some b ↔ (a.link p).body = some b := by
    have hdefault : (default : Link).body = none := rfl
    intro p
    by_cases hp : p.idx < a.links.size
    · rw [hout₄ _ hp]
    · have hnone : (a.link p).body = none := by
        simp [link, Array.getD_eq_getD_getElem?, Nat.le_of_not_lt hp, hdefault]
      have hb' : b.idx < a.bodies.size := lt_size_of_root hroot
      rw [hnone]
      refine ⟨fun h => ?_, fun h => by cases h⟩
      rcases hadd.indexed.body_of_le_relabel hsize₄ (Nat.le_of_not_lt hp) with h' | h' <;> rw [h'] at h <;> cases h
      simp only at hb'
      omega
  -- what is left is the last entry of the map, made after a possible wait
  have hfinal : ∀ cm₄ : CloneMap, cm₄.entries = cm₂.entries →
      ((a.link t.root).body = some b →
        cm₄.pending = cm.pending ++ ((a.parentBodyLink? b).map fun p => ((⟨a₂.bodies.size⟩ : BodyId), p)).toArray) →
      CopiedBody a cm b t a₄ (cm₄.record (.body b) a₂.bodies.size) ⟨a₂.bodies.size⟩ := by
    intro cm₄ hent hpend
    have hlk : ∀ k, k ≠ .body b → (cm₄.record (.body b) a₂.bodies.size).lookup? k = cm₂.lookup? k := by
      intro k hk
      rw [CloneMap.lookup?_record_of_ne _ _ hk]
      simp only [CloneMap.lookup?, hent]
    have hg₄ : cm₂.Grows a₂.nextIdentity (cm₄.record (.body b) a₂.bodies.size) a₂.nextIdentity :=
      (show cm₂.Grows a₂.nextIdentity cm₄ a₂.nextIdentity from
        ⟨Nat.le_refl _, fun k v h => by simp only [CloneMap.lookup?, hent]; exact h,
          fun k v _ h => by simp only [CloneMap.lookup?, hent] at h; exact .inl h⟩).trans (.record rfl _ _)
    have hgrows : cm.Grows a.nextIdentity (cm₄.record (.body b) a₂.bodies.size) a₄.nextIdentity := by
      rw [hadd.nextIdentity]
      exact (hg₁.trans hcopied.grows).trans hg₄
    refine
      { id := by rw [hsize₂]
        size_bodies := by
          rw [hadd.size_bodies, hsize₂]
        oldBodies := hbody₄
        body := hcopy₄.1
        materials := by
          rw [hcopy₄.2]
          exact (hg₄.trans (.refl _ _)).rel (hcopied.grows.rel hm₁)
        indexed := hadd.indexed
        rootParent := by
          rw [hadd.view Link.parent (fun _ _ _ => rfl)]
          exact hpar₂
        size := hsize₄
        old := hout₄
        copied := fun k hk => by
          rw [hadd.view Link.copied (fun _ _ _ => rfl), ← hlink₁, ← hl₁, hcopied.copied k hk]
        shapes := fun k hk => by
          rw [hadd.view Link.shape (fun _ _ _ => rfl), ← hlink₁, ← hl₁]
          exact hg₄.rel (hcopied.shapes k hk)
        copies := fun k hk => by
          rw [hlk _ (by simp), hcopied.copies k hk, hl₁]
        self := by
          rw [CloneMap.lookup?_record_self _ _ (by
            simp only [CloneMap.lookup?, hent]
            rw [← CloneMap.lookup?, hcopied.unchanged _ (by simp) (by simp), hk₁ _ (by simp)]
            exact hb)]
        others := fun x hx => by
          rw [hlk _ (by simp), hcopied.others x hx, hk₁ _ (by simp)]
        bodyKeys := fun d hd => by
          rw [hlk _ (by simpa using hd), hcopied.unchanged _ (by simp) (by simp), hk₁ _ (by simp)]
        grows := hgrows
        pending := hpend }
  -- the copy waits for the copy of a foreign parent exactly when `b` hangs from another body
  have hrootLink : a₄.link t.root = a.link t.root := hout₄ _ (hr _ (by cases t; simp))
  have hpbl : ∀ {p}, (a.link t.root).parent = some p → (a.link t.root).body = some b →
      a.parentBodyLink? b = if a₄.hasParentBody (a.link t.root) then some p else none := by
    intro p hp hown
    simp only [parentBodyLink?, hroot, hasParentBody_of_owner hown hmount]
    split <;> simp_all
  simp only [hrootLink]
  split
  · rename_i p hp
    split
    · rename_i hpar
      refine hfinal _ rfl fun hown => ?_
      rw [hpbl hp hown, if_pos hpar, hcopied.pending, hp₁]
      rfl
    · rename_i hpar
      refine hfinal _ rfl fun hown => ?_
      rw [hpbl hp hown, if_neg hpar, hcopied.pending, hp₁]
      rfl
  · rename_i hp
    refine hfinal _ rfl fun _ => ?_
    simp only [parentBodyLink?, hroot, hasParentBody, hp, hcopied.pending, hp₁]
    rfl

/-- Copying a body through a map that holds no copy of it or of its links
copies its tree link by link behind the links there are: the copy is indexed
over the renumbered tree, the map sends the tree's `k`-th link to the `k`-th
new link, and joint types are kept. -/
theorem cloneBody_indexed {cm : CloneMap} {t : LinkTree} (hroot : (a.body b).root = some t.root)
    (hspan : a.Spans t) (hnd : t.preorder.Nodup) (hr : ∀ l ∈ t.preorder, l.idx < a.links.size)
    (hb : cm.lookup? (.body b) = none) (hfresh : ∀ l ∈ t.preorder, cm.lookup? (.link l) = none) :
    ∃ a' cm' c, a.cloneBody cm b = .ok (a', cm', c) ∧ a'.Indexed c (t.relabel a.links.size) ∧
      ∀ k (h : k < t.preorder.length), cm'.lookup? (.link t.preorder[k]) = some (a.links.size + k) ∧
        (a'.link ⟨a.links.size + k⟩).jointType = (a.link t.preorder[k]).jointType := by
  obtain ⟨a', cm', c, hclone, hc⟩ := cloneBody_copies hroot hspan hnd hr hb hfresh
  refine ⟨a', cm', c, hclone, hc.indexed, fun k hk => ⟨hc.copies k hk, ?_⟩⟩
  have hview := congrArg Link.jointType (hc.copied k hk)
  exact hview

/-- A body indexed over its tree has every indexing fact, and its copy through
a map that holds no copy of it or of its links has them too, over a tree of
the same shape: the copy's `i`-th link is the copy of the body's `i`-th link,
with the same joint type. -/
theorem updateLinkTree_indexed_and_cloned {t : LinkTree} (hroot : (a.body b).root = some t.root)
    (hspan : a.Spans t) (hnd : t.preorder.Nodup) (hr : ∀ l ∈ t.preorder, l.idx < a.links.size) :
    (a.updateLinkTree b).Indexed b t ∧
      ∀ cm : CloneMap, cm.lookup? (.body b) = none → (∀ l ∈ t.preorder, cm.lookup? (.link l) = none) →
        ∃ a' cm' c, (a.updateLinkTree b).cloneBody cm b = .ok (a', cm', c) ∧
          a'.Indexed c (t.relabel a.links.size) ∧
          ∀ i (h : i < ((a.updateLinkTree b).body b).links.size), ∃ h' : i < (a'.body c).links.size,
            cm'.lookup? (.link ((a.updateLinkTree b).body b).links[i]) = some (a'.body c).links[i].idx ∧
            (a'.link (a'.body c).links[i]).jointType =
              ((a.updateLinkTree b).link ((a.updateLinkTree b).body b).links[i]).jointType := by
  have hidx := updateLinkTree_indexed hroot hspan hnd hr
  have hsize := size_updateLinkTree hroot hspan hnd hr
  refine ⟨hidx, fun cm hb hfresh => ?_⟩
  obtain ⟨a', cm', c, hclone, hidx', hcopies⟩ := cloneBody_indexed hidx.root hidx.spans hnd
    (by rw [hsize]; exact hr) hb hfresh
  rw [hsize] at hidx' hcopies
  refine ⟨a', cm', c, hclone, hidx', fun i hi => ?_⟩
  -- both link lists are read off the trees: the body's `i`-th link is the tree's,
  -- and the copy's is the `i`-th new link
  have hlen : i < t.preorder.length := by
    rw [← hidx.links, Array.length_toList]
    exact hi
  have hlen' : i < (a'.body c).links.size := by
    rw [← Array.length_toList, hidx'.links, LinkTree.length_preorder_relabel]
    exact hlen
  have hget : ((a.updateLinkTree b).body b).links[i] = t.preorder[i] := by
    simp only [← Array.getElem_toList, hidx.links]
  have hget' : (a'.body c).links[i] = ⟨a.links.size + i⟩ := by
    simp only [← Array.getElem_toList, hidx'.links, LinkTree.getElem_preorder_relabel]
  refine ⟨hlen', ?_, ?_⟩
  · rw [hget, hget', (hcopies i hlen).1]
  · rw [hget, hget', (hcopies i hlen).2,
      updateLinkTree_keeps hroot hspan hnd hr Link.jointType (fun _ _ _ => rfl)]

/-- A base with a revolute arm and a fixed tool on the arm, as one body. -/
def sampleArm : Assembly where
  links := #[{ name := "base", children := #[⟨1⟩] },
             { name := "arm", parent := some ⟨0⟩, children := #[⟨2⟩], jointType := .revolute },
             { name := "tool", parent := some ⟨1⟩ }]
  bodies := #[{ name := "arm", modelName := "arm", root := some ⟨0⟩ }]

theorem sampleArm_indexed_and_cloned :
    (sampleArm.updateLinkTree ⟨0⟩).Indexed ⟨0⟩ (.node ⟨0⟩ [.node ⟨1⟩ [.node ⟨2⟩ []]]) ∧
      ∀ cm : CloneMap, cm.lookup? (.body ⟨0⟩) = none →
        (∀ l ∈ [(⟨0⟩ : LinkId), ⟨1⟩, ⟨2⟩], cm.lookup? (.link l) = none) →
        ∃ a' cm' c, (sampleArm.updateLinkTree ⟨0⟩).cloneBody cm ⟨0⟩ = .ok (a', cm', c) ∧
          a'.Indexed c (LinkTree.relabel 3 (.node ⟨0⟩ [.node ⟨1⟩ [.node ⟨2⟩ []]])) ∧
          ∀ i (h : i < ((sampleArm.updateLinkTree ⟨0⟩).body ⟨0⟩).links.size), ∃ h' : i < (a'.body c).links.size,
            cm'.lookup? (.link ((sampleArm.updateLinkTree ⟨0⟩).body ⟨0⟩).links[i]) = some (a'.body c).links[i].idx ∧
            (a'.link (a'.body c).links[i]).jointType =
              ((sampleArm.updateLinkTree ⟨0⟩).link ((sampleArm.updateLinkTree ⟨0⟩).body ⟨0⟩).links[i]).jointType :=
  updateLinkTree_indexed_and_cloned rfl
    (.node _ _ rfl (by simp [sampleArm, link])
      (by simp only [List.mem_singleton, forall_eq]
          exact .node _ _ rfl (by simp [sampleArm, link])
            (by simp only [List.mem_singleton, forall_eq]
                exact .node _ _ rfl (by simp) (by simp))))
    (by decide) (by decide)

end Assembly

end Multibody
