import Multibody.Proofs.Body.Copy
import Multibody.Proofs.Body.Kinematics

/-!
# Copying bodies through one clone map

Bodies copied one after another through one clone map (`Assembly.cloneBody`)
and re-attached (`Assembly.finalizeClones`) are deep copies: new bodies with
new links that take over everything of their originals but their place in
the tree and their shape, trees of the same shape, and shapes and material
tables copied once each under fresh identities.

`Copies` is the invariant of a run of copies (`copies_nil`,
`Copies.cloneBody_of_mem`, `Copies.cloneBody`, `Copies.finalizeClones`),
with a `BodyCopy` per body copied.  It rests on `LinkTree.relabel_eq_map`
and `Indexed.jointId_map`.
-/

namespace Multibody

namespace LinkTree

mutual
/-- The tree with every link renamed by `f`. -/
def map (f : LinkId → LinkId) : LinkTree → LinkTree
  | node l ts => node (f l) (mapAll f ts)
/-- Trees with every link renamed by `f`. -/
def mapAll (f : LinkId → LinkId) : List LinkTree → List LinkTree
  | [] => []
  | t :: ts => map f t :: mapAll f ts
end

variable (f : LinkId → LinkId)

@[simp] theorem map_node (l : LinkId) (ts : List LinkTree) : map f (node l ts) = node (f l) (mapAll f ts) := by
  simp [map]

@[simp] theorem mapAll_nil : mapAll f [] = [] := by
  simp [mapAll]

@[simp] theorem mapAll_cons (t : LinkTree) (ts : List LinkTree) : mapAll f (t :: ts) = map f t :: mapAll f ts := by
  simp [mapAll]

theorem mapAll_eq (ts : List LinkTree) : mapAll f ts = ts.map (map f) := by
  induction ts with
  | nil => rfl
  | cons t ts ih => rw [mapAll_cons, ih, List.map_cons]

@[simp] theorem root_map (t : LinkTree) : (map f t).root = f t.root := by
  cases t
  simp

mutual
theorem preorder_map : ∀ t : LinkTree, (map f t).preorder = t.preorder.map f
  | node l ts => by rw [map_node, preorder_node, preorder_node, preorderAll_mapAll, List.map_cons]
theorem preorderAll_mapAll : ∀ ts : List LinkTree, preorderAll (mapAll f ts) = (preorderAll ts).map f
  | [] => by simp
  | t :: ts => by rw [mapAll_cons, preorderAll_cons, preorderAll_cons, preorder_map, preorderAll_mapAll, List.map_append]
end

theorem root_mem_preorder (t : LinkTree) : t.root ∈ t.preorder := by
  cases t
  simp

theorem exists_of_mem_preorderAll {l : LinkId} : ∀ {ts : List LinkTree}, l ∈ preorderAll ts → ∃ u ∈ ts, l ∈ u.preorder
  | [], h => by simp at h
  | t :: ts, h => by
    rw [preorderAll_cons, List.mem_append] at h
    rcases h with h | h
    · exact ⟨t, List.mem_cons_self .., h⟩
    · obtain ⟨u, hu, hl⟩ := exists_of_mem_preorderAll h
      exact ⟨u, List.mem_cons_of_mem _ hu, hl⟩

variable {f}

mutual
theorem relabel_eq_map : ∀ (n : Nat) (t : LinkTree),
    (∀ k (h : k < t.preorder.length), f t.preorder[k] = ⟨n + k⟩) → relabel n t = map f t
  | n, node l ts, hf => by
    have hroot : f l = ⟨n⟩ := by simpa using hf 0 (by simp)
    rw [relabel_node, map_node, hroot, relabelAll_eq_mapAll (n + 1) ts fun k hk => ?_]
    have := hf (k + 1) (by simpa using hk)
    simpa [Nat.add_assoc, Nat.add_comm 1 k] using this
theorem relabelAll_eq_mapAll : ∀ (n : Nat) (ts : List LinkTree),
    (∀ k (h : k < (preorderAll ts).length), f (preorderAll ts)[k] = ⟨n + k⟩) → relabelAll n ts = mapAll f ts
  | n, [], _ => by simp
  | n, t :: ts, hf => by
    rw [relabelAll_cons, mapAll_cons, relabel_eq_map n t fun k hk => ?_,
      relabelAll_eq_mapAll (n + t.preorder.length) ts fun k hk => ?_]
    · -- a link of a later tree
      have := hf (t.preorder.length + k) (by simp only [preorderAll_cons, List.length_append]; omega)
      rw [List.getElem_of_eq (preorderAll_cons t ts), List.getElem_append_right (by omega)] at this
      simpa [Nat.add_assoc] using this
    · -- a link of the first tree
      have := hf k (by simp only [preorderAll_cons, List.length_append]; omega)
      rwa [List.getElem_of_eq (preorderAll_cons t ts), List.getElem_append_left hk] at this
end

end LinkTree

namespace Assembly

variable {a x y : Assembly} {b c : BodyId} {t : LinkTree}

theorem Spans.children_map {f : LinkId → LinkId} (hx : x.Spans t) :
    y.Spans (t.map f) → ∀ l ∈ t.preorder, (y.link (f l)).children.toList = (x.link l).children.toList.map f := by
  induction hx with
  | node l ts hch _ _ ih =>
    intro hy l' hl'
    rw [LinkTree.map_node] at hy
    obtain ⟨hych, hsub⟩ : (y.link (f l)).children.toList = (LinkTree.mapAll f ts).map LinkTree.root ∧
        ∀ u ∈ LinkTree.mapAll f ts, y.Spans u := by
      cases hy with
      | node _ _ hch' _ hsub' => exact ⟨hch', hsub'⟩
    rw [LinkTree.preorder_node, List.mem_cons] at hl'
    rcases hl' with rfl | hl'
    · rw [hych, hch, LinkTree.mapAll_eq, List.map_map, List.map_map]
      exact List.map_congr_left fun u _ => LinkTree.root_map f u
    · obtain ⟨u, hu, hlu⟩ := LinkTree.exists_of_mem_preorderAll hl'
      exact ih u hu (hsub _ (by rw [LinkTree.mapAll_eq]; exact List.mem_map_of_mem hu)) l' hlu

theorem Indexed.congr_on (h : x.Indexed b t) (hb : y.body b = x.body b)
    (hl : ∀ l ∈ t.preorder, ∃ q, y.link l = { x.link l with parent := q })
    (hp : ∀ l ∈ t.preorder.tail, (y.link l).parent = (x.link l).parent) : y.Indexed b t := by
  have hview : ∀ {β : Type} (g : Link → β), (∀ (lk : Link) q, g { lk with parent := q } = g lk) →
      ∀ l ∈ t.preorder, g (y.link l) = g (x.link l) := by
    intro β g hg l hmem
    obtain ⟨q, hq⟩ := hl l hmem
    rw [hq, hg]
  have hmem : ∀ l ∈ (x.body b).links, l ∈ t.preorder := fun l hmem => by
    rw [← h.links, Array.mem_toList_iff]
    exact hmem
  refine
    { root := by rw [hb]; exact h.root
      spans := h.spans.congr_on (fun l hmem => hview Link.children (fun _ _ => rfl) l hmem) hp
      links := by rw [hb]; exact h.links
      nodup := by rw [hb]; exact h.nodup
      index := fun i hi => by
        simp only [hb] at hi ⊢
        rw [hview Link.index (fun _ _ => rfl) _ (hmem _ (Array.getElem_mem hi))]
        exact h.index i hi
      body := fun l hl' => by
        rw [hb] at hl'
        rw [hview Link.body (fun _ _ => rfl) _ (hmem _ hl')]
        exact h.body l hl'
      parent := fun i hi hpos => ?_
      joints := by
        rw [hb, h.joints]
        exact List.filter_congr fun l hl' => by rw [hview Link.jointType (fun _ _ => rfl) l hl']
      jointId := fun j hj => by
        simp only [hb] at hj ⊢
        rw [hview Link.jointId (fun _ _ => rfl) _ (hmem _ (h.joint_mem (Array.getElem_mem hj)))]
        exact h.jointId j hj
      unactuated := fun l hl' hna => by
        rw [hb] at hl'
        rw [hview Link.jointType (fun _ _ => rfl) _ (hmem _ hl')] at hna
        rw [hview Link.jointId (fun _ _ => rfl) _ (hmem _ hl')]
        exact h.unactuated l hl' hna
      linkAt := linkAt?_eq_none_iff
      jointAt := jointAt?_eq_none_iff }
  -- below the root the parents are kept, and the parent's place too
  simp only [hb] at hi ⊢
  obtain ⟨j, hj, hpj⟩ := h.parent_getElem hi hpos
  have htail : (x.body b).links[i] ∈ t.preorder.tail := by
    rw [← h.links, List.mem_iff_getElem]
    refine ⟨i - 1, by simp; omega, ?_⟩
    rw [List.getElem_tail]
    simp only [Array.getElem_toList]
    congr 1
    omega
  refine ⟨_, (hp _ htail).trans hpj, ?_⟩
  rw [hview Link.index (fun _ _ => rfl) _ (hmem _ (Array.getElem_mem _)), h.index j (by omega)]
  exact_mod_cast hj

theorem Indexed.jointId_map {f : LinkId → LinkId} (hx : x.Indexed b t) (hy : y.Indexed c (t.map f))
    (hjt : ∀ l ∈ t.preorder, (y.link (f l)).jointType = (x.link l).jointType) :
    ∀ l ∈ t.preorder, (y.link (f l)).jointId = (x.link l).jointId := by
  -- the joints of the second body are the renamed joints of the first
  have hjoints : (y.body c).joints.toList = (x.body b).joints.toList.map f := by
    rw [hy.joints, hx.joints, LinkTree.preorder_map, List.filter_map]
    congr 1
    exact List.filter_congr fun l hl => by simp [hjt l hl]
  intro l hl
  by_cases hact : (x.link l).jointType.isActuated
  · obtain ⟨j, hj, hjl⟩ : ∃ j, ∃ hj : j < (x.body b).joints.size, (x.body b).joints[j] = l := by
      have hmem : l ∈ (x.body b).joints.toList := by
        rw [hx.joints]
        exact List.mem_filter.2 ⟨hl, hact⟩
      obtain ⟨j, hj, hjl⟩ := List.mem_iff_getElem.1 hmem
      exact ⟨j, by simpa using hj, by simpa using hjl⟩
    have hj' : j < (y.body c).joints.size := by
      rw [← Array.length_toList, hjoints, List.length_map, Array.length_toList]
      exact hj
    have hget : (y.body c).joints[j] = f l := by
      rw [← hjl, ← Array.getElem_toList, ← Array.getElem_toList]
      simp only [hjoints, List.getElem_map]
    rw [← hget, hy.jointId j hj', ← hjl, hx.jointId j hj]
  · have hmem : f l ∈ (y.body c).links := by
      rw [← Array.mem_toList_iff, hy.links, LinkTree.preorder_map]
      exact List.mem_map_of_mem hl
    have hmem' : l ∈ (x.body b).links := by
      rw [← Array.mem_toList_iff, hx.links]
      exact hl
    rw [hy.unactuated _ hmem (by rw [hjt l hl]; simpa using hact), hx.unactuated _ hmem' (by simpa using hact)]

end Assembly

/-! ## A copy of one body -/

/-- The copy of a link under the map, if one was made. -/
def CloneMap.linkCopy? (cm : CloneMap) (l : LinkId) : Option LinkId :=
  (cm.lookup? (.link l)).map LinkId.mk

theorem CloneMap.map_linkCopy?_of_grows {cm cm' : CloneMap} {n n' : Nat} (hg : cm.Grows n cm' n')
    {xs : List LinkId} {ys : List LinkId} (h : xs.map some = ys.map cm.linkCopy?) :
    ys.map cm'.linkCopy? = ys.map cm.linkCopy? := by
  refine List.map_congr_left fun y hy => ?_
  obtain ⟨x, -, hx⟩ := List.mem_map.1 (h ▸ List.mem_map_of_mem hy : cm.linkCopy? y ∈ xs.map some)
  obtain ⟨v, hv, -⟩ := Option.map_eq_some_iff.1 hx.symm
  simp only [linkCopy?, hv, hg.keys _ _ hv]

namespace Assembly

variable {a₀ a a' : Assembly} {cm cm' : CloneMap} {b c : BodyId} {t : LinkTree}

/-- Link `l'` of `a` is a copy of link `l` of `a₀` through the map `cm`: the
map sends `l` to `l'`, a link `a₀` did not have; `l'` takes over all of `l`
but its place in a tree, its body and its shape, and holds the same position
and joint number; its shape is the copy of the shape of `l`, and its children
are the copies of the children of `l`, in order. -/
structure LinkCopy (a₀ : Assembly) (l : LinkId) (a : Assembly) (cm : CloneMap) (l' : LinkId) : Prop where
  key : cm.lookup? (.link l) = some l'.idx
  new : a₀.links.size ≤ l'.idx
  copied : (a.link l').copied = (a₀.link l).copied
  index : (a.link l').index = (a₀.link l).index
  jointId : (a.link l').jointId = (a₀.link l).jointId
  shape : Option.Rel (cm.Copy .shape Shape.id Shape.geom) (a₀.link l).shape (a.link l').shape
  children : (a.link l').children.toList.map some = (a₀.link l).children.toList.map cm.linkCopy?

/-- Body `c` of `a` is a copy of body `b` of `a₀`, indexed over `t`, through
the map `cm`: the map sends `b` to `c`, a body `a₀` did not have; `c` takes
over all of `b` but its tree and its material table, has the copy of that
table, is indexed over `t` renumbered past the links of `a₀`, and its `i`-th
link is a copy of the `i`-th link of `b`. -/
structure BodyCopy (a₀ : Assembly) (b : BodyId) (t : LinkTree) (a : Assembly) (cm : CloneMap) (c : BodyId) :
    Prop where
  key : cm.lookup? (.body b) = some c.idx
  new : a₀.bodies.size ≤ c.idx
  body : (a.body c).copied = (a₀.body b).copied
  materials : Option.Rel (cm.Copy .materials Materials.id Materials.table) (a₀.body b).materials
    (a.body c).materials
  indexed : ∃ n, a₀.links.size ≤ n ∧ a.Indexed c (t.relabel n)
  size : (a.body c).links.size = (a₀.body b).links.size
  links : ∀ i (h : i < (a₀.body b).links.size) (h' : i < (a.body c).links.size),
    LinkCopy a₀ (a₀.body b).links[i] a cm (a.body c).links[i]

theorem LinkCopy.mono {l l' : LinkId} {n n' : Nat} (h : LinkCopy a₀ l a cm l')
    (hl : ∃ q, a'.link l' = { a.link l' with parent := q }) (hg : cm.Grows n cm' n') : LinkCopy a₀ l a' cm' l' := by
  obtain ⟨q, hq⟩ := hl
  exact
    { key := hg.keys _ _ h.key
      new := h.new
      copied := by rw [hq, ← h.copied]; rfl
      index := by rw [hq, ← h.index]
      jointId := by rw [hq, ← h.jointId]
      shape := by rw [hq]; exact hg.rel h.shape
      children := by rw [hq, CloneMap.map_linkCopy?_of_grows hg h.children]; exact h.children }

theorem BodyCopy.mono {n n' : Nat} (h : BodyCopy a₀ b t a cm c) (hbody : a'.body c = a.body c)
    (hl : ∀ l ∈ (a.body c).links, ∃ q, a'.link l = { a.link l with parent := q })
    (hp : ∀ l ∈ (a.body c).links.toList.tail, (a'.link l).parent = (a.link l).parent)
    (hg : cm.Grows n cm' n') : BodyCopy a₀ b t a' cm' c := by
  obtain ⟨m, hm, hidx⟩ := h.indexed
  refine
    { key := hg.keys _ _ h.key
      new := h.new
      body := by rw [hbody]; exact h.body
      materials := by rw [hbody]; exact hg.rel h.materials
      indexed := ⟨m, hm, hidx.congr_on hbody (fun l hmem => hl l ?_) fun l hmem => hp l ?_⟩
      size := by rw [hbody]; exact h.size
      links := fun i hi hi' => ?_ }
  · rw [← Array.mem_toList_iff, hidx.links]
    exact hmem
  · rw [hidx.links]
    exact hmem
  · simp only [hbody] at hi' ⊢
    exact (h.links i hi hi').mono (hl _ (Array.getElem_mem hi')) hg

theorem Spans.mem_of_mem_children (hs : a.Spans t) : ∀ l ∈ t.preorder, ∀ x ∈ (a.link l).children, x ∈ t.preorder := by
  induction hs with
  | node l ts hch _ _ ih =>
    intro l' hl' x hx
    rw [LinkTree.preorder_node, List.mem_cons] at hl' ⊢
    rcases hl' with rfl | hl'
    · rw [← Array.mem_toList_iff, hch] at hx
      obtain ⟨u, hu, rfl⟩ := List.mem_map.1 hx
      exact .inr (LinkTree.root_mem_preorderAll hu)
    · obtain ⟨u, hu, hlu⟩ := LinkTree.exists_of_mem_preorderAll hl'
      exact .inr (LinkTree.preorder_subset_preorderAll hu (ih u hu l' hlu x hx))

theorem CopiedBody.bodyCopy (hc : CopiedBody a cm b t a' cm' c) (h₀ : a₀.Indexed b t)
    (hlinks : ∀ l ∈ t.preorder, a.link l = a₀.link l) (hbody : a.body b = a₀.body b)
    (hsize : a₀.links.size ≤ a.links.size) (hbsize : a₀.bodies.size ≤ a.bodies.size) : BodyCopy a₀ b t a' cm' c := by
  -- the copy renames each link of the tree by the map
  let f : LinkId → LinkId := fun l => ⟨(cm'.lookup? (.link l)).getD 0⟩
  have hf : ∀ k (h : k < t.preorder.length), f t.preorder[k] = ⟨a.links.size + k⟩ := fun k h => by
    simp only [f, hc.copies k h, Option.getD_some]
  have hmap := LinkTree.relabel_eq_map a.links.size t hf
  have hidx : a'.Indexed c (t.map f) := hmap ▸ hc.indexed
  have hlen : t.preorder.length = (a₀.body b).links.size := by rw [← h₀.links, Array.length_toList]
  have hget₀ : ∀ i (h : i < (a₀.body b).links.size), (a₀.body b).links[i] = t.preorder[i] := fun i h => by
    simp only [← Array.getElem_toList, h₀.links]
  have hget : ∀ i (h : i < (a'.body c).links.size), (a'.body c).links[i] = ⟨a.links.size + i⟩ := fun i h => by
    simp only [← Array.getElem_toList, hc.indexed.links, LinkTree.getElem_preorder_relabel]
  have hsize' : (a'.body c).links.size = (a₀.body b).links.size := by
    rw [← Array.length_toList, hc.indexed.links, LinkTree.length_preorder_relabel, hlen]
  have hcopied : ∀ l ∈ t.preorder, (a'.link (f l)).copied = (a₀.link l).copied := by
    intro l hl
    obtain ⟨k, hk, rfl⟩ := List.mem_iff_getElem.1 hl
    rw [hf k hk, hc.copied k hk, hlinks _ hl]
  refine
    { key := by rw [hc.self]
      new := by rw [hc.id]; exact hbsize
      body := by rw [hc.body, hbody]
      materials := by rw [← hbody]; exact hc.materials
      indexed := ⟨a.links.size, hsize, hc.indexed⟩
      size := hsize'
      links := fun i hi hi' => ?_ }
  have hk : i < t.preorder.length := hlen ▸ hi
  have hl : t.preorder[i] ∈ t.preorder := List.getElem_mem hk
  rw [hget₀ i hi, hget i hi']
  refine
    { key := hc.copies i hk
      new := by simp only; omega
      copied := by rw [hc.copied i hk, hlinks _ hl]
      index := ?_
      jointId := ?_
      shape := by rw [← hlinks _ hl]; exact hc.shapes i hk
      children := ?_ }
  · -- both links hold their place
    rw [← hget i hi', hc.indexed.index i hi', ← hget₀ i hi, h₀.index i hi]
  · rw [← hf i hk]
    refine h₀.jointId_map hidx (fun l hl' => ?_) _ hl
    have hjt := congrArg Link.jointType (hcopied l hl')
    exact hjt
  · -- the children of the copy are the renamed children, and every child has a copy
    rw [← hf i hk, h₀.spans.children_map hidx.spans _ hl, List.map_map]
    refine List.map_congr_left fun x hx => ?_
    obtain ⟨k, hk', rfl⟩ := List.mem_iff_getElem.1
      (h₀.spans.mem_of_mem_children _ hl x (Array.mem_toList_iff.1 hx))
    simp only [Function.comp_apply, CloneMap.linkCopy?, hc.copies k hk', hf k hk', Option.map_some]

end Assembly

/-! ## Copying bodies one after another -/

@[simp] theorem CloneMap.lookup?_empty (k : CloneKey) : ({} : CloneMap).lookup? k = none := rfl

namespace Assembly

variable {a₀ a : Assembly} {cm : CloneMap} {ts : BodyId → LinkTree} {S : List BodyId} {b : BodyId}

/-- The invariant of copying bodies of `a₀` one after another through one
map, `S` being the bodies copied so far, each indexed over its tree `ts b`:
the links and bodies of `a₀` are as they were, and every later link belongs
to no body or to a later body; the map holds copies of the links of the
bodies of `S` and of those bodies only, distinct bodies having distinct
copies, and the identities it gave out are fresh; each body of `S` has a copy
whose root hangs from nothing yet; and the map notes, for each body of `S`
mounted on another, its copy and the link it hangs from. -/
structure Copies (a₀ : Assembly) (ts : BodyId → LinkTree) (S : List BodyId) (a : Assembly) (cm : CloneMap) :
    Prop where
  indexed : ∀ b ∈ S, a₀.Indexed b (ts b)
  linksSize : a₀.links.size ≤ a.links.size
  bodiesSize : a₀.bodies.size ≤ a.bodies.size
  oldLinks : ∀ x : LinkId, x.idx < a₀.links.size → a.link x = a₀.link x
  oldBodies : ∀ d : BodyId, d.idx < a₀.bodies.size → a.body d = a₀.body d
  newLinks : ∀ x : LinkId, a₀.links.size ≤ x.idx → ∀ d, (a.link x).body = some d → a₀.bodies.size ≤ d.idx
  linkKeys : ∀ x v, cm.lookup? (.link x) = some v → ∃ b ∈ S, x ∈ (a₀.body b).links
  bodyKeys : ∀ d v, cm.lookup? (.body d) = some v → d ∈ S
  bodyInj : ∀ b d v, cm.lookup? (.body b) = some v → cm.lookup? (.body d) = some v → b = d
  grows : CloneMap.Grows {} a₀.nextIdentity cm a.nextIdentity
  copies : ∀ b ∈ S, ∃ c, BodyCopy a₀ b (ts b) a cm c ∧ ∀ r, (a.body c).root = some r → (a.link r).parent = none
  pending : ∀ c p, (c, p) ∈ cm.pending ↔ ∃ b ∈ S, cm.lookup? (.body b) = some c.idx ∧ a₀.parentBodyLink? b = some p

theorem copies_nil (a₀ : Assembly) (ts : BodyId → LinkTree) : Copies a₀ ts [] a₀ {} where
  indexed := by simp
  linksSize := Nat.le_refl _
  bodiesSize := Nat.le_refl _
  oldLinks _ _ := rfl
  oldBodies _ _ := rfl
  newLinks x hx d h := by
    have hdef : a₀.link x = default := by simp [link, Array.getD_eq_getD_getElem?, hx]
    rw [hdef] at h
    cases h
  linkKeys := by simp
  bodyKeys := by simp
  bodyInj := by simp
  grows := .refl _ _
  copies := by simp
  pending := by simp

theorem cloneBody_of_lookup? {v : Nat} (h : cm.lookup? (.body b) = some v) : a.cloneBody cm b = .ok (a, cm, ⟨v⟩) := by
  simp only [cloneBody, h]
  rfl

theorem Copies.cloneBody_of_mem (h : Copies a₀ ts S a cm) (hb : b ∈ S) :
    ∃ c, BodyCopy a₀ b (ts b) a cm c ∧ a.cloneBody cm b = .ok (a, cm, c) := by
  obtain ⟨c, hc, -⟩ := h.copies b hb
  exact ⟨c, hc, cloneBody_of_lookup? hc.key⟩

theorem Copies.lt_size_of_copy {c : BodyId} (hc : BodyCopy a₀ b (ts b) a cm c) : c.idx < a.bodies.size := by
  obtain ⟨n, -, hidx⟩ := hc.indexed
  exact lt_size_of_root hidx.root

theorem Copies.parentBodyLink?_eq (h : Copies a₀ ts S a cm) (hidx : a₀.Indexed b (ts b)) :
    a.parentBodyLink? b = a₀.parentBodyLink? b := by
  have hb : b.idx < a₀.bodies.size := lt_size_of_root hidx.root
  have hr : (ts b).root.idx < a₀.links.size := hidx.lt_size_of_mem (hidx.root_mem hidx.root)
  have hown : (a₀.link (ts b).root).body = some b := hidx.body _ (hidx.root_mem hidx.root)
  -- a later link belongs to no body of `a₀`
  have hmount : ∀ p : LinkId, (a.link p).body = some b ↔ (a₀.link p).body = some b := by
    intro p
    by_cases hp : p.idx < a₀.links.size
    · rw [h.oldLinks p hp]
    · have hdef : (a₀.link p).body = none := by
        simp [link, Array.getD_eq_getD_getElem?, Nat.le_of_not_lt hp]
        rfl
      rw [hdef]
      refine ⟨fun hd => ?_, fun hd => by cases hd⟩
      have := h.newLinks p (Nat.le_of_not_lt hp) b hd
      omega
  simp only [parentBodyLink?, h.oldBodies b hb, hidx.root, h.oldLinks _ hr, hasParentBody_of_owner hown hmount]

theorem Copies.cloneBody (h : Copies a₀ ts S a cm) (hb : b ∉ S) (hidx : a₀.Indexed b (ts b))
    (hdisj : ∀ d ∈ S, ∀ l ∈ (a₀.body b).links, l ∉ (a₀.body d).links) :
    ∃ a' cm' c, a.cloneBody cm b = .ok (a', cm', c) ∧ cm'.lookup? (.body b) = some c.idx ∧
      (∀ k v, cm.lookup? k = some v → cm'.lookup? k = some v) ∧ Copies a₀ ts (b :: S) a' cm' := by
  have hbsize : b.idx < a₀.bodies.size := lt_size_of_root hidx.root
  have hmem : ∀ l ∈ (ts b).preorder, l ∈ (a₀.body b).links := fun l hl => by
    rw [← Array.mem_toList_iff, hidx.links]
    exact hl
  have hold : ∀ l ∈ (ts b).preorder, l.idx < a₀.links.size := fun l hl => hidx.lt_size_of_mem (hmem l hl)
  have hlinks : ∀ l ∈ (ts b).preorder, a.link l = a₀.link l := fun l hl => h.oldLinks l (hold l hl)
  have hbody : a.body b = a₀.body b := h.oldBodies b hbsize
  -- neither the body nor its links are copied yet
  have hbk : cm.lookup? (.body b) = none := by
    cases hv : cm.lookup? (.body b) with
    | none => rfl
    | some v => exact absurd (h.bodyKeys b v hv) hb
  have hfresh : ∀ l ∈ (ts b).preorder, cm.lookup? (.link l) = none := by
    intro l hl
    cases hv : cm.lookup? (.link l) with
    | none => rfl
    | some v =>
      obtain ⟨d, hd, hld⟩ := h.linkKeys l v hv
      exact absurd hld (hdisj d hd l (hmem l hl))
  obtain ⟨a', cm', c, hclone, hc⟩ := cloneBody_copies (by rw [hbody]; exact hidx.root)
    (hidx.spans.congr_on (fun l hl => by rw [hlinks l hl]) (fun l hl => by rw [hlinks l (List.mem_of_mem_tail hl)]))
    (hidx.links ▸ hidx.nodup) (fun l hl => Nat.lt_of_lt_of_le (hold l hl) h.linksSize) hbk hfresh
  refine ⟨a', cm', c, hclone, hc.self, hc.grows.keys, ?_⟩
  have hcsize : c.idx = a.bodies.size := by rw [hc.id]
  -- the map held copies of bodies of `a` only
  have hval : ∀ d v, cm.lookup? (.body d) = some v → v < a.bodies.size := by
    intro d v hv
    obtain ⟨c', hc', -⟩ := h.copies d (h.bodyKeys d v hv)
    rw [hc'.key] at hv
    cases hv
    exact Copies.lt_size_of_copy hc'
  have hne : ∀ d ∈ S, d ≠ b := fun d hd e => hb (e ▸ hd)
  refine
    { indexed := fun d hd => ?_
      linksSize := by rw [hc.size]; exact Nat.le_add_right_of_le h.linksSize
      bodiesSize := by rw [hc.size_bodies]; exact Nat.le_succ_of_le h.bodiesSize
      oldLinks := fun x hx => by rw [hc.old x (Nat.lt_of_lt_of_le hx h.linksSize), h.oldLinks x hx]
      oldBodies := fun d hd => by rw [hc.oldBodies d (Nat.lt_of_lt_of_le hd h.bodiesSize), h.oldBodies d hd]
      newLinks := fun x hx d hd => ?_
      linkKeys := fun x v hv => ?_
      bodyKeys := fun d v hv => ?_
      bodyInj := fun d₁ d₂ v h₁ h₂ => ?_
      grows := h.grows.trans hc.grows
      copies := fun d hd => ?_
      pending := fun c' p => ?_ }
  · rcases List.mem_cons.1 hd with rfl | hd
    · exact hidx
    · exact h.indexed d hd
  · -- a link after those of `a` belongs to the copy or to no body
    by_cases hlt : x.idx < a.links.size
    · rw [hc.old x hlt] at hd
      exact h.newLinks x hx d hd
    · rcases hc.indexed.body_of_le_relabel hc.size (Nat.le_of_not_lt hlt) with h' | h' <;> rw [h'] at hd <;>
        cases hd
      rw [hcsize]
      exact h.bodiesSize
  · by_cases hx : x ∈ (ts b).preorder
    · exact ⟨b, List.mem_cons_self .., hmem x hx⟩
    · rw [hc.others x hx] at hv
      obtain ⟨d, hd, hxd⟩ := h.linkKeys x v hv
      exact ⟨d, List.mem_cons_of_mem _ hd, hxd⟩
  · by_cases hd : d = b
    · exact hd ▸ List.mem_cons_self ..
    · rw [hc.bodyKeys d hd] at hv
      exact List.mem_cons_of_mem _ (h.bodyKeys d v hv)
  · -- the new copy is numbered past every copy there was
    by_cases hd₁ : d₁ = b <;> by_cases hd₂ : d₂ = b
    · rw [hd₁, hd₂]
    · rw [hd₁, hc.self] at h₁
      rw [hc.bodyKeys d₂ hd₂] at h₂
      cases h₁
      exact absurd (hval d₂ _ h₂) (by omega)
    · rw [hd₂, hc.self] at h₂
      rw [hc.bodyKeys d₁ hd₁] at h₁
      cases h₂
      exact absurd (hval d₁ _ h₁) (by omega)
    · rw [hc.bodyKeys d₁ hd₁] at h₁
      rw [hc.bodyKeys d₂ hd₂] at h₂
      exact h.bodyInj d₁ d₂ v h₁ h₂
  · rcases List.mem_cons.1 hd with rfl | hd
    · -- the new copy, its root made without a parent
      refine ⟨c, hc.bodyCopy hidx hlinks hbody h.linksSize h.bodiesSize, fun r hr => ?_⟩
      rw [hc.indexed.root, LinkTree.root_relabel] at hr
      cases hr
      exact hc.rootParent
    · -- an earlier copy, whose body and links the new copy leaves alone
      obtain ⟨c', hc', hroot'⟩ := h.copies d hd
      have hlt : c'.idx < a.bodies.size := Copies.lt_size_of_copy hc'
      obtain ⟨n, -, hidx'⟩ := hc'.indexed
      have hkeep : ∀ l ∈ (a.body c').links, a'.link l = a.link l := fun l hl => hc.old l (hidx'.lt_size_of_mem hl)
      refine ⟨c', hc'.mono (hc.oldBodies c' hlt) (fun l hl => ⟨_, hkeep l hl⟩)
        (fun l hl => by rw [hkeep l (Array.mem_toList_iff.1 (List.mem_of_mem_tail hl))]) hc.grows, fun r hr => ?_⟩
      rw [hc.oldBodies c' hlt] at hr
      rw [hkeep r (hidx'.root_mem hr)]
      exact hroot' r hr
  · -- the copy waits for the link its body hangs from, if any
    have hown : (a.link (ts b).root).body = some b := by
      have hr := hidx.root_mem hidx.root
      rw [hlinks _ (LinkTree.root_mem_preorder _), hidx.body _ hr]
    rw [hc.pending hown, h.parentBodyLink?_eq hidx, Array.mem_append, h.pending, Option.mem_toArray]
    constructor
    · rintro (⟨d, hd, hd₁, hd₂⟩ | hnew)
      · exact ⟨d, List.mem_cons_of_mem _ hd, by rw [hc.bodyKeys d (hne d hd)]; exact hd₁, hd₂⟩
      · obtain ⟨p', hp', he⟩ := Option.map_eq_some_iff.1 hnew
        cases he
        exact ⟨b, List.mem_cons_self .., hc.self, hp'⟩
    · rintro ⟨d, hd, hd₁, hd₂⟩
      rcases List.mem_cons.1 hd with rfl | hd
      · rw [hc.self] at hd₁
        right
        rw [hd₂]
        have hcc : c = c' := by
          cases c
          cases c'
          simp only [Option.some.injEq] at hd₁
          rw [hd₁]
        rw [hcc]
        rfl
      · left
        exact ⟨d, hd, by rw [← hc.bodyKeys d (hne d hd)]; exact hd₁, hd₂⟩

end Assembly

/-! ## Re-attaching the copies -/

namespace Assembly

/-- One re-attachment: the root of the copied body `c` hangs from the copy of
`p`, when `p` was copied. -/
def attach (cm : CloneMap) : Assembly → BodyId × LinkId → Assembly
  | a, (c, p) =>
    match cm.lookup? (.link p), (a.body c).root with
    | some cp, some r => a.modifyLink r fun l => { l with parent := some ⟨cp⟩ }
    | _, _ => a

theorem finalizeClones_eq (a : Assembly) (cm : CloneMap) :
    a.finalizeClones cm = (cm.pending.toList.foldl (attach cm) a, { cm with pending := #[] }) := by
  rw [Array.foldl_toList]
  rfl

section Attach

variable (cm : CloneMap) {a : Assembly} {x : LinkId}

@[simp] theorem bodies_attach (a : Assembly) (e : BodyId × LinkId) : (attach cm a e).bodies = a.bodies := by
  obtain ⟨c, p⟩ := e
  simp only [attach]
  split <;> rfl

@[simp] theorem body_attach (a : Assembly) (e : BodyId × LinkId) (d : BodyId) :
    (attach cm a e).body d = a.body d := by
  simp only [body, bodies_attach]

@[simp] theorem size_attach (a : Assembly) (e : BodyId × LinkId) : (attach cm a e).links.size = a.links.size := by
  obtain ⟨c, p⟩ := e
  simp only [attach]
  split
  · simp [modifyLink]
  · rfl

@[simp] theorem nextIdentity_attach (a : Assembly) (e : BodyId × LinkId) :
    (attach cm a e).nextIdentity = a.nextIdentity := by
  obtain ⟨c, p⟩ := e
  simp only [attach]
  split <;> rfl

theorem link_attach (a : Assembly) (e : BodyId × LinkId) (x : LinkId) :
    ∃ q, (attach cm a e).link x = { a.link x with parent := q } := by
  obtain ⟨c, p⟩ := e
  simp only [attach]
  split
  · rw [link_modifyLink]
    split
    · exact ⟨_, rfl⟩
    · exact ⟨_, rfl⟩
  · exact ⟨_, rfl⟩

theorem link_attach_of_ne {c : BodyId} {p : LinkId} (h : (a.body c).root ≠ some x) :
    (attach cm a (c, p)).link x = a.link x := by
  simp only [attach]
  split
  · rename_i r hr
    exact link_modifyLink_of_ne _ _ fun e => h (e ▸ hr)
  · rfl

theorem attach_of_none {c : BodyId} {p : LinkId} (h : cm.lookup? (.link p) = none) : attach cm a (c, p) = a := by
  simp only [attach]
  split
  · rename_i hp _
    rw [h] at hp
    cases hp
  · rfl

theorem link_attach_self {c : BodyId} {p : LinkId} {cp : Nat} (hroot : (a.body c).root = some x)
    (hx : x.idx < a.links.size) (hcp : cm.lookup? (.link p) = some cp) :
    (attach cm a (c, p)).link x = { a.link x with parent := some ⟨cp⟩ } := by
  simp only [attach, hcp, hroot]
  rw [link_modifyLink, if_pos ⟨rfl, hx⟩]

theorem link_foldl_attach (x : LinkId) :
    ∀ (L : List (BodyId × LinkId)) (a : Assembly), ∃ q, (L.foldl (attach cm) a).link x = { a.link x with parent := q }
  | [], a => ⟨_, rfl⟩
  | e :: L, a => by
    obtain ⟨q, hq⟩ := link_foldl_attach x L (attach cm a e)
    obtain ⟨q', hq'⟩ := link_attach cm a e x
    exact ⟨q, by rw [List.foldl_cons, hq, hq']⟩

theorem link_foldl_attach_of_none :
    ∀ (L : List (BodyId × LinkId)) (a : Assembly),
      (∀ e ∈ L, (a.body e.1).root = some x → cm.lookup? (.link e.2) = none) → (L.foldl (attach cm) a).link x = a.link x
  | [], _, _ => rfl
  | (c, p) :: L, a, h => by
    have hrest : ∀ e ∈ L, ((attach cm a (c, p)).body e.1).root = some x → cm.lookup? (.link e.2) = none :=
      fun e he => by rw [body_attach]; exact h e (List.mem_cons_of_mem _ he)
    rw [List.foldl_cons, link_foldl_attach_of_none L _ hrest]
    by_cases hroot : (a.body c).root = some x
    · rw [attach_of_none cm (h (c, p) (List.mem_cons_self ..) hroot)]
    · exact link_attach_of_ne cm hroot

theorem link_foldl_attach_of_mem {c : BodyId} {p : LinkId} {cp : Nat} (hroot : (a.body c).root = some x)
    (hx : x.idx < a.links.size) (hcp : cm.lookup? (.link p) = some cp) :
    ∀ (L : List (BodyId × LinkId)), (c, p) ∈ L → (∀ e ∈ L, (a.body e.1).root = some x → e = (c, p)) →
      (L.foldl (attach cm) a).link x = { a.link x with parent := some ⟨cp⟩ } := by
  intro L
  induction L generalizing a with
  | nil => intro hmem; cases hmem
  | cons e L ih =>
    intro hmem huniq
    have hrest : ∀ e' ∈ L, ((attach cm a e).body e'.1).root = some x → e' = (c, p) :=
      fun e' he' => by rw [body_attach]; exact huniq e' (List.mem_cons_of_mem _ he')
    rw [List.foldl_cons]
    by_cases he : e = (c, p)
    · subst he
      by_cases hmem' : (c, p) ∈ L
      · rw [ih (by rw [body_attach]; exact hroot) (by rw [size_attach]; exact hx) hmem' hrest,
          link_attach_self cm hroot hx hcp]
      · -- the rest re-attaches no root `x`
        rw [link_foldl_attach_of_none cm L _ fun e' he' hr => absurd (hrest e' he' hr ▸ he') hmem',
          link_attach_self cm hroot hx hcp]
    · obtain ⟨c', p'⟩ := e
      have hne : (a.body c').root ≠ some x := fun hr => he (huniq _ (List.mem_cons_self ..) hr)
      rw [ih (by rw [body_attach]; exact hroot) (by rw [size_attach]; exact hx)
          ((List.mem_cons.1 hmem).resolve_left (Ne.symm he)) hrest, link_attach_of_ne cm hne]

end Attach

section Finalize

variable (a : Assembly) (cm : CloneMap)

@[simp] theorem bodies_finalizeClones : (a.finalizeClones cm).1.bodies = a.bodies := by
  rw [finalizeClones_eq]
  exact Sim.foldl_keeps (fun y : Assembly => y.bodies) (attach cm) (bodies_attach cm) _ _

@[simp] theorem nextIdentity_finalizeClones : (a.finalizeClones cm).1.nextIdentity = a.nextIdentity := by
  rw [finalizeClones_eq]
  exact Sim.foldl_keeps (fun y : Assembly => y.nextIdentity) (attach cm) (nextIdentity_attach cm) _ _

@[simp] theorem lookup?_finalizeClones (k : CloneKey) : (a.finalizeClones cm).2.lookup? k = cm.lookup? k := rfl

@[simp] theorem pending_finalizeClones : (a.finalizeClones cm).2.pending = #[] := rfl

theorem grows_finalizeClones (n : Nat) : cm.Grows n (a.finalizeClones cm).2 n :=
  ⟨Nat.le_refl n, fun k v h => by rw [lookup?_finalizeClones]; exact h,
    fun k v _ h => .inl (by rw [lookup?_finalizeClones] at h; exact h)⟩

theorem link_finalizeClones (x : LinkId) : ∃ q, (a.finalizeClones cm).1.link x = { a.link x with parent := q } := by
  rw [finalizeClones_eq]
  exact link_foldl_attach cm x _ a

theorem link_finalizeClones_of_none {x : LinkId}
    (h : ∀ e ∈ cm.pending.toList, (a.body e.1).root = some x → cm.lookup? (.link e.2) = none) :
    (a.finalizeClones cm).1.link x = a.link x := by
  rw [finalizeClones_eq]
  exact link_foldl_attach_of_none cm _ a h

theorem link_finalizeClones_of_mem {x : LinkId} {c : BodyId} {p : LinkId} {cp : Nat}
    (hmem : (c, p) ∈ cm.pending.toList) (hroot : (a.body c).root = some x) (hx : x.idx < a.links.size)
    (hcp : cm.lookup? (.link p) = some cp) (huniq : ∀ e ∈ cm.pending.toList, (a.body e.1).root = some x → e = (c, p)) :
    (a.finalizeClones cm).1.link x = { a.link x with parent := some ⟨cp⟩ } := by
  rw [finalizeClones_eq]
  exact link_foldl_attach_of_mem cm hroot hx hcp _ hmem huniq

end Finalize

variable {a : Assembly} {cm : CloneMap} {b : BodyId} {t : LinkTree}

theorem Indexed.root_not_mem_tail {r : LinkId} (h : a.Indexed b t) (hr : (a.body b).root = some r) :
    r ∉ (a.body b).links.toList.tail := by
  have hnd := h.links ▸ h.nodup
  rw [h.links]
  rw [h.root] at hr
  cases hr
  cases t with
  | node l ts =>
    simp only [LinkTree.preorder_node, List.tail_cons, LinkTree.root_node] at hnd ⊢
    exact (List.nodup_cons.1 hnd).1

variable {a₀ : Assembly} {ts : BodyId → LinkTree} {S : List BodyId}

theorem Copies.pending_copy (h : Copies a₀ ts S a cm) {e : BodyId × LinkId} (he : e ∈ cm.pending.toList) :
    ∃ d ∈ S, BodyCopy a₀ d (ts d) a cm e.1 ∧ a₀.parentBodyLink? d = some e.2 := by
  obtain ⟨⟨i⟩, p⟩ := e
  obtain ⟨d, hd, hkey, hp⟩ := (h.pending ⟨i⟩ p).1 (Array.mem_toList_iff.1 he)
  obtain ⟨⟨j⟩, hc, -⟩ := h.copies d hd
  rw [hc.key] at hkey
  cases hkey
  exact ⟨d, hd, hc, hp⟩

/-- Re-attaching keeps every copy, and hangs the root of the copy of each
mounted body from the copy of the link it hangs from, when that link was
copied; the roots of the other copies hang from nothing. -/
theorem Copies.finalizeClones (h : Copies a₀ ts S a cm) (b : BodyId) (hb : b ∈ S) :
    ∃ c, BodyCopy a₀ b (ts b) (a.finalizeClones cm).1 (a.finalizeClones cm).2 c ∧
      ∀ r, ((a.finalizeClones cm).1.body c).root = some r →
        ((a.finalizeClones cm).1.link r).parent = (a₀.parentBodyLink? b).bind cm.linkCopy? := by
  obtain ⟨c, hc, hroot₀⟩ := h.copies b hb
  obtain ⟨n, -, hidx⟩ := hc.indexed
  have hbody : (a.finalizeClones cm).1.body c = a.body c := by simp only [body, bodies_finalizeClones]
  -- a re-attachment of a link of the copy is the re-attachment of the copy
  have hwho : ∀ e ∈ cm.pending.toList, ∀ x ∈ (a.body c).links, (a.body e.1).root = some x →
      e.1 = c ∧ a₀.parentBodyLink? b = some e.2 := by
    intro e he x hx hr
    obtain ⟨d, hd, hcd, hpd⟩ := h.pending_copy he
    obtain ⟨m, -, hidx'⟩ := hcd.indexed
    have hsame : e.1 = c := Option.some.inj ((hidx'.body x (hidx'.root_mem hr)).symm.trans (hidx.body x hx))
    have hdb : d = b := h.bodyInj d b e.1.idx hcd.key (by rw [hsame]; exact hc.key)
    exact ⟨hsame, hdb ▸ hpd⟩
  refine ⟨c, hc.mono hbody (fun l _ => link_finalizeClones a cm l) (fun l hl => ?_) (grows_finalizeClones a cm 0),
    fun r hr => ?_⟩
  · -- below the root no link is re-attached
    have hl' : l ∈ (a.body c).links := Array.mem_toList_iff.1 (List.mem_of_mem_tail hl)
    rw [link_finalizeClones_of_none a cm fun e he hr => ?_]
    obtain ⟨hsame, -⟩ := hwho e he l hl' hr
    rw [hsame] at hr
    exact absurd hl (hidx.root_not_mem_tail hr)
  · rw [hbody] at hr
    have hrmem := hidx.root_mem hr
    cases hpb : a₀.parentBodyLink? b with
    | none =>
      -- an unmounted body's copy is re-attached nowhere
      rw [link_finalizeClones_of_none a cm fun e he hr' => absurd (hwho e he r hrmem hr').2 (by rw [hpb]; simp),
        hroot₀ r hr]
      rfl
    | some p =>
      have hmem : (c, p) ∈ cm.pending.toList := Array.mem_toList_iff.2 ((h.pending c p).2 ⟨b, hb, hc.key, hpb⟩)
      -- every re-attachment of the root is this one
      have hone : ∀ e ∈ cm.pending.toList, (a.body e.1).root = some r → e = (c, p) := by
        intro e he hr'
        obtain ⟨hsame, hp⟩ := hwho e he r hrmem hr'
        rw [hpb] at hp
        exact Prod.ext hsame (Option.some.inj hp).symm
      cases hcp : cm.lookup? (.link p) with
      | none =>
        rw [link_finalizeClones_of_none a cm fun e he hr' => by rw [hone e he hr']; exact hcp, hroot₀ r hr]
        simp [CloneMap.linkCopy?, hcp]
      | some cp =>
        rw [link_finalizeClones_of_mem a cm hmem hr (hidx.lt_size_of_mem hrmem) hcp hone]
        simp [CloneMap.linkCopy?, hcp]

/-! ## Deep copies through one map -/

theorem cloneBody_of_root_none (hr : (a.body b).root = none) (hb : cm.lookup? (.body b) = none) :
    ∃ e, a.cloneBody cm b = .error e := by
  refine ⟨.missing, ?_⟩
  unfold cloneBody
  split
  · rename_i v hv
    rw [hb] at hv
    cases hv
  lift_lets
  intro orig
  split
  rename_i a₁ cm₁ mats hM
  -- copying the material table adds no body, so the body still has no root
  have hb₁ : a₁.bodies = a.bodies := by
    cases hm : orig.materials <;> simp only [hm, Prod.mk.injEq] at hM <;> obtain ⟨rfl, rfl, rfl⟩ := hM
    · rfl
    · exact bodies_cloneMaterials _ _
  have hroot : a₁.rootOf b = .error .missing := by
    simp only [rootOf, body, hb₁]
    simp only [body] at hr
    rw [hr]
  rw [hroot]
  rfl

/-- Copying bodies through one clone map.  A body without a root link cannot
be copied.  Bodies of `a₀` indexed over their trees and sharing no links,
copied in any order through one map starting empty: before the first copy
nothing is copied; copying a body again returns its copy and changes nothing;
copying a new body adds its copy.  Re-attaching at the end leaves the links
of `a₀` as they were, the map holding copies of shapes and material tables
under identities issued after the first copy, and for every body copied a
copy link by link whose root hangs from the copy of the link the body hangs
from, when that link was copied, and from nothing otherwise. -/
theorem clones_through_one_map (a₀ : Assembly) (ts : BodyId → LinkTree) :
    (∀ (a : Assembly) (cm : CloneMap) (b : BodyId), (a.body b).root = none → cm.lookup? (.body b) = none →
      ∃ e, a.cloneBody cm b = .error e) ∧
    Copies a₀ ts [] a₀ {} ∧
    (∀ S a cm b, Copies a₀ ts S a cm → b ∈ S →
      ∃ c, BodyCopy a₀ b (ts b) a cm c ∧ a.cloneBody cm b = .ok (a, cm, c)) ∧
    (∀ S a cm b, Copies a₀ ts S a cm → b ∉ S → a₀.Indexed b (ts b) →
      (∀ d ∈ S, ∀ l ∈ (a₀.body b).links, l ∉ (a₀.body d).links) →
      ∃ a' cm' c, a.cloneBody cm b = .ok (a', cm', c) ∧ Copies a₀ ts (b :: S) a' cm') ∧
    (∀ S a cm, Copies a₀ ts S a cm →
      (a.finalizeClones cm).2.pending = #[] ∧
      CloneMap.Grows {} a₀.nextIdentity (a.finalizeClones cm).2 (a.finalizeClones cm).1.nextIdentity ∧
      (∀ x : LinkId, x.idx < a₀.links.size → (a.finalizeClones cm).1.link x = a₀.link x) ∧
      ∀ b ∈ S, ∃ c, BodyCopy a₀ b (ts b) (a.finalizeClones cm).1 (a.finalizeClones cm).2 c ∧
        (a.finalizeClones cm).1.cloneBody (a.finalizeClones cm).2 b =
          .ok ((a.finalizeClones cm).1, (a.finalizeClones cm).2, c) ∧
        ∀ r, ((a.finalizeClones cm).1.body c).root = some r →
          ((a.finalizeClones cm).1.link r).parent = (a₀.parentBodyLink? b).bind cm.linkCopy?) := by
  refine ⟨fun a cm b hr hb => cloneBody_of_root_none hr hb, copies_nil a₀ ts,
    fun S a cm b h hb => h.cloneBody_of_mem hb, fun S a cm b h hb hidx hdisj => by
      obtain ⟨a', cm', c, hclone, -, -, hc⟩ := h.cloneBody hb hidx hdisj
      exact ⟨a', cm', c, hclone, hc⟩,
    fun S a cm h => ⟨rfl, ?_, fun x hx => ?_, fun b hb => ?_⟩⟩
  · rw [nextIdentity_finalizeClones]
    exact h.grows.trans (grows_finalizeClones a cm _)
  · -- the links of `a₀` are no roots of copies
    rw [link_finalizeClones_of_none a cm fun e he hr => ?_, h.oldLinks x hx]
    obtain ⟨d, -, hcd, -⟩ := h.pending_copy he
    obtain ⟨n, hn, hidx⟩ := hcd.indexed
    rw [hidx.root, LinkTree.root_relabel] at hr
    cases hr
    exact absurd hx (by simp only; omega)
  · obtain ⟨c, hc, hroot⟩ := h.finalizeClones b hb
    exact ⟨c, hc, cloneBody_of_lookup? hc.key, hroot⟩

/-- A ball to collide with. -/
def ball : Geometry := { name := "ball", radius := 0.1, center := Vec3.zero }

/-- An arm of two links, and a tool mounted on the arm's second link, both
holding the same ball. -/
def toolOnArmParts : Assembly where
  links := #[{ name := "base", children := #[⟨1⟩] },
             { name := "arm", parent := some ⟨0⟩, jointType := .revolute, shape := some ⟨0, ball⟩ },
             { name := "tool", parent := some ⟨1⟩, shape := some ⟨0, ball⟩ }]
  bodies := #[{ name := "arm", modelName := "arm", root := some ⟨0⟩ },
              { name := "tool", modelName := "tool", root := some ⟨2⟩ }]
  nextIdentity := 1

/-- The trees of the arm and of the tool. -/
def toolOnArmTrees : BodyId → LinkTree
  | ⟨0⟩ => .node ⟨0⟩ [.node ⟨1⟩ []]
  | _ => .node ⟨2⟩ []

/-- The arm and the tool, each indexed. -/
def toolOnArm : Assembly := (toolOnArmParts.updateLinkTree ⟨0⟩).updateLinkTree ⟨1⟩

theorem toolOnArm_indexed : toolOnArm.Indexed ⟨0⟩ (toolOnArmTrees ⟨0⟩) ∧ toolOnArm.Indexed ⟨1⟩ (toolOnArmTrees ⟨1⟩) := by
  have harm : (toolOnArmParts.updateLinkTree ⟨0⟩).Indexed ⟨0⟩ (toolOnArmTrees ⟨0⟩) := by
    refine updateLinkTree_indexed rfl ?_ (by decide) (by decide)
    refine .node _ _ rfl (by simp [toolOnArmParts, link]) fun t ht => ?_
    simp only [List.mem_singleton] at ht
    subst ht
    exact .node _ _ rfl (by simp) (by simp)
  -- indexing the tool leaves the arm alone
  have hroot : ((toolOnArmParts.updateLinkTree ⟨0⟩).body ⟨1⟩).root = some (toolOnArmTrees ⟨1⟩).root := by decide
  have hspan : (toolOnArmParts.updateLinkTree ⟨0⟩).Spans (toolOnArmTrees ⟨1⟩) := .node _ _ (by decide) (by simp) (by simp)
  have hnd : (toolOnArmTrees ⟨1⟩).preorder.Nodup := by decide
  have hr : ∀ l ∈ (toolOnArmTrees ⟨1⟩).preorder, l.idx < (toolOnArmParts.updateLinkTree ⟨0⟩).links.size := by decide
  have hout : ∀ l ∈ (toolOnArmTrees ⟨0⟩).preorder, toolOnArm.link l = (toolOnArmParts.updateLinkTree ⟨0⟩).link l :=
    fun l hl => link_updateLinkTree_of_not_mem hroot hspan hnd hr fun hl' => by
      simp only [toolOnArmTrees, LinkTree.preorder_node, LinkTree.preorderAll_cons, LinkTree.preorderAll_nil,
        List.append_nil, List.mem_cons, List.not_mem_nil, or_false] at hl hl'
      rcases hl with rfl | rfl <;> cases hl'
  refine ⟨harm.congr_on ?_ (fun l hl => ⟨_, hout l hl⟩) fun l hl => by rw [hout l (List.mem_of_mem_tail hl)],
    updateLinkTree_indexed hroot hspan hnd hr⟩
  obtain ⟨ls, js, h⟩ := body_updateLinkTree hroot hspan hnd hr ⟨0⟩
  rw [toolOnArm, h, if_neg (by decide)]

/-- Copying the arm, then the tool, through one map and re-attaching: the
copy of the tool hangs from the copy of the arm's second link. -/
theorem toolOnArm_copies_mount :
    toolOnArm.parentBodyLink? ⟨1⟩ = some ⟨1⟩ ∧
      ∃ a₁ cm₁ c₀ a₂ cm₂ c₁, toolOnArm.cloneBody {} ⟨0⟩ = .ok (a₁, cm₁, c₀) ∧
        a₁.cloneBody cm₁ ⟨1⟩ = .ok (a₂, cm₂, c₁) ∧
        ∃ c, BodyCopy toolOnArm ⟨1⟩ (toolOnArmTrees ⟨1⟩) (a₂.finalizeClones cm₂).1 (a₂.finalizeClones cm₂).2 c ∧
          ∀ r, ((a₂.finalizeClones cm₂).1.body c).root = some r →
            ((a₂.finalizeClones cm₂).1.link r).parent = cm₂.linkCopy? ⟨1⟩ := by
  obtain ⟨harm, htool⟩ := toolOnArm_indexed
  have hmount : toolOnArm.parentBodyLink? ⟨1⟩ = some ⟨1⟩ := by decide
  obtain ⟨-, hnil, -, hstep, hfinal⟩ := clones_through_one_map toolOnArm toolOnArmTrees
  obtain ⟨a₁, cm₁, c₀, hc₀, h₁⟩ := hstep [] toolOnArm {} ⟨0⟩ hnil List.not_mem_nil harm (by simp)
  obtain ⟨a₂, cm₂, c₁, hc₁, h₂⟩ := hstep [⟨0⟩] a₁ cm₁ ⟨1⟩ h₁ (by decide) htool (by decide +kernel)
  obtain ⟨-, -, -, hcopies⟩ := hfinal _ _ _ h₂
  obtain ⟨c, hc, -, hroot⟩ := hcopies ⟨1⟩ (by simp)
  refine ⟨hmount, a₁, cm₁, c₀, a₂, cm₂, c₁, hc₀, hc₁, c, hc, fun r hr => ?_⟩
  rw [hroot r hr, hmount]
  rfl

end Assembly

end Multibody
