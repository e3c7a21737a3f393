import Multibody.Proofs.Body.Restore
import Mathlib.Data.List.Perm.Subperm

/-!
# Indexing a body's link tree

`Assembly.updateLinkTree` lists a body's links depth first and numbers its
revolute and prismatic joints in the same order.  `LinkTree.preorder` states
the order without the traversal, and `Assembly.Spans a t` says the children
and parents recorded in `a` are those of `t`.  On a spanned tree the
traversal is a fold of `stamp` over `t.preorder` (`visit_eq_foldl`), and the
indexed body satisfies `Assembly.Indexed` (`updateLinkTree_indexed`).
-/

namespace Multibody

instance : LawfulBEq LinkId where
  eq_of_beq {x y} h := by
    cases x
    cases y
    simp_all [BEq.beq, instBEqLinkId.beq]
  rfl {x} := by
    cases x
    simp [BEq.beq, instBEqLinkId.beq]

instance : LawfulBEq BodyId where
  eq_of_beq {x y} h := by
    cases x
    cases y
    simp_all [BEq.beq, instBEqBodyId.beq]
  rfl {x} := by
    cases x
    simp [BEq.beq, instBEqBodyId.beq]

/-- A finite tree of links: a link and the trees of its children, in order. -/
inductive LinkTree where
  | node (l : LinkId) (children : List LinkTree)

namespace LinkTree

/-- The link at the top of a tree. -/
def root : LinkTree → LinkId
  | node l _ => l

mutual
/-- The links of a tree in depth-first pre-order: the root, then the trees of
its children in order. -/
def preorder : LinkTree → List LinkId
  | node l ts => l :: preorderAll ts
/-- The links of a list of trees, each in pre-order, one tree after another. -/
def preorderAll : List LinkTree → List LinkId
  | [] => []
  | t :: ts => preorder t ++ preorderAll ts
end

@[simp] theorem root_node (l : LinkId) (ts : List LinkTree) : (node l ts).root = l := rfl

@[simp] theorem preorder_node (l : LinkId) (ts : List LinkTree) :
    (node l ts).preorder = l :: preorderAll ts := by
  simp [preorder]

@[simp] theorem preorderAll_nil : preorderAll [] = [] := by
  simp [preorderAll]

@[simp] theorem preorderAll_cons (t : LinkTree) (ts : List LinkTree) :
    preorderAll (t :: ts) = t.preorder ++ preorderAll ts := by
  simp [preorderAll]

theorem preorderAll_append (ts us : List LinkTree) :
    preorderAll (ts ++ us) = preorderAll ts ++ preorderAll us := by
  induction ts with
  | nil => simp
  | cons t ts ih => simp [ih]

theorem preorderAll_node_cons (l : LinkId) (ts rest : List LinkTree) :
    preorderAll (node l ts :: rest) = l :: preorderAll (ts ++ rest) := by
  simp [preorderAll_append]

theorem preorder_ne_nil (t : LinkTree) : t.preorder ≠ [] := by
  cases t
  simp

theorem head_preorder (t : LinkTree) (h : 0 < t.preorder.length) : t.preorder[0] = t.root := by
  cases t
  simp

end LinkTree

namespace Assembly

/-- Below the root of `t` the links of `a` form the tree `t`: every link's
children are the roots of its subtrees, in order, and each child's parent is
that link. -/
inductive Spans (a : Assembly) : LinkTree → Prop
  | node (l : LinkId) (ts : List LinkTree)
      (children : (a.link l).children.toList = ts.map LinkTree.root)
      (parents : ∀ t ∈ ts, (a.link t.root).parent = some l)
      (sub : ∀ t ∈ ts, Spans a t) : Spans a (.node l ts)

variable {a a' : Assembly} {b : BodyId}

theorem Spans.congr (hc : ∀ x, (a'.link x).children = (a.link x).children)
    (hp : ∀ x, (a'.link x).parent = (a.link x).parent) {t : LinkTree} (h : a.Spans t) : a'.Spans t := by
  induction h with
  | node l ts hch hpar _ ih =>
    refine .node l ts ?_ (fun u hu => ?_) ih
    · rw [hc]
      exact hch
    · rw [hp]
      exact hpar u hu

theorem Spans.parent_before_all {p : LinkId} {ts : List LinkTree}
    (hpar : ∀ t ∈ ts, (a.link t.root).parent = some p)
    (hsub : ∀ t ∈ ts, ∀ i (hi : i < t.preorder.length), 0 < i →
      ∃ j < i, (a.link t.preorder[i]).parent = t.preorder[j]?) :
    ∀ i (hi : i < (LinkTree.preorderAll ts).length),
      (a.link (LinkTree.preorderAll ts)[i]).parent = some p ∨
        ∃ j < i, (a.link (LinkTree.preorderAll ts)[i]).parent = (LinkTree.preorderAll ts)[j]? := by
  induction ts with
  | nil => simp
  | cons u us ih =>
    intro i hi
    simp only [LinkTree.preorderAll_cons] at hi ⊢
    by_cases hlt : i < u.preorder.length
    · rw [List.getElem_append_left hlt]
      rcases Nat.eq_zero_or_pos i with rfl | hpos
      · -- the first link of a tree is its root, whose parent is `p`
        left
        rw [LinkTree.head_preorder]
        exact hpar u (List.mem_cons_self ..)
      · obtain ⟨j, hj, hpj⟩ := hsub u (List.mem_cons_self ..) i hlt hpos
        exact Or.inr ⟨j, hj, by rw [hpj, List.getElem?_append_left (by omega)]⟩
    · have hge : u.preorder.length ≤ i := Nat.le_of_not_lt hlt
      rw [List.getElem_append_right hge]
      have hi' : i - u.preorder.length < (LinkTree.preorderAll us).length := by
        simp only [List.length_append] at hi
        omega
      rcases ih (fun t ht => hpar t (List.mem_cons_of_mem _ ht))
          (fun t ht => hsub t (List.mem_cons_of_mem _ ht)) _ hi' with hp | ⟨j, hj, hpj⟩
      · exact Or.inl hp
      · refine Or.inr ⟨j + u.preorder.length, by omega, ?_⟩
        rw [hpj, List.getElem?_append_right (by omega), Nat.add_sub_cancel]

theorem Spans.parent_before {t : LinkTree} (h : a.Spans t) :
    ∀ i (hi : i < t.preorder.length), 0 < i → ∃ j < i, (a.link t.preorder[i]).parent = t.preorder[j]? := by
  induction h with
  | node l ts _ hpar _ ih =>
    intro i hi hpos
    simp only [LinkTree.preorder_node, List.length_cons] at hi ⊢
    obtain ⟨k, rfl⟩ : ∃ k, i = k + 1 := ⟨i - 1, by omega⟩
    rw [List.getElem_cons_succ]
    rcases Spans.parent_before_all hpar ih k (by omega) with hp | ⟨j, hj, hpj⟩
    · exact ⟨0, hpos, by simp [hp]⟩
    · exact ⟨j + 1, by omega, by simp [hpj]⟩

/-! ## One visit -/

/-- One visit of the indexing: the link takes the next place in the body's
list and, when its joint is revolute or prismatic, the next joint number. -/
def stamp (b : BodyId) (acc : Assembly × Array LinkId × Array LinkId) (l : LinkId) :
    Assembly × Array LinkId × Array LinkId :=
  let lk := acc.1.link l
  let actuated := lk.jointType.isActuated
  (acc.1.setLink l { lk with index := acc.2.1.size, body := some b,
                              jointId := if actuated then (acc.2.2.size : Int) else -1 },
   acc.2.1.push l, if actuated then acc.2.2.push l else acc.2.2)

section Stamp

variable (b : BodyId) (acc : Assembly × Array LinkId × Array LinkId) (l : LinkId)

theorem stamp_keeps {β : Type} (g : Link → β)
    (hg : ∀ (lk : Link) (i : Int) (j : Int), g { lk with index := i, body := some b, jointId := j } = g lk)
    (x : LinkId) : g ((stamp b acc l).1.link x) = g (acc.1.link x) :=
  link_setLink_keeps _ g (hg _ _ _) x

@[simp] theorem size_stamp : (stamp b acc l).1.links.size = acc.1.links.size := by
  simp [stamp]

@[simp] theorem bodies_stamp : (stamp b acc l).1.bodies = acc.1.bodies := rfl

@[simp] theorem lists_stamp : (stamp b acc l).2.1 = acc.2.1.push l := rfl

@[simp] theorem joints_stamp :
    (stamp b acc l).2.2 = if (acc.1.link l).jointType.isActuated then acc.2.2.push l else acc.2.2 := rfl

theorem children_stamp (x : LinkId) : ((stamp b acc l).1.link x).children = (acc.1.link x).children :=
  stamp_keeps b acc l Link.children (fun _ _ _ => rfl) x

theorem parent_stamp (x : LinkId) : ((stamp b acc l).1.link x).parent = (acc.1.link x).parent :=
  stamp_keeps b acc l Link.parent (fun _ _ _ => rfl) x

theorem jointType_stamp (x : LinkId) : ((stamp b acc l).1.link x).jointType = (acc.1.link x).jointType :=
  stamp_keeps b acc l Link.jointType (fun _ _ _ => rfl) x

theorem link_stamp_of_ne {x : LinkId} (hx : l ≠ x) : (stamp b acc l).1.link x = acc.1.link x := by
  simp [stamp, link_setLink, hx]

end Stamp

/-! ## The traversal visits a spanned tree in pre-order -/

theorem visit_nil (b : BodyId) (fuel : Nat) (a : Assembly) (ls js : Array LinkId) :
    updateLinkTree.visit b fuel [] a ls js = (a, ls, js) := by
  cases fuel <;> rfl

theorem visit_succ_cons (b : BodyId) (fuel : Nat) (l : LinkId) (rest : List LinkId) (a : Assembly)
    (ls js : Array LinkId) :
    updateLinkTree.visit b (fuel + 1) (l :: rest) a ls js =
      updateLinkTree.visit b fuel ((a.link l).children.toList ++ rest) (stamp b (a, ls, js) l).1
        (stamp b (a, ls, js) l).2.1 (stamp b (a, ls, js) l).2.2 := rfl

theorem visit_eq_foldl (b : BodyId) :
    ∀ (fuel : Nat) (F : List LinkTree) (a : Assembly) (ls js : Array LinkId),
      (∀ t ∈ F, a.Spans t) → (LinkTree.preorderAll F).length ≤ fuel →
      updateLinkTree.visit b fuel (F.map LinkTree.root) a ls js =
        (LinkTree.preorderAll F).foldl (stamp b) (a, ls, js)
  | _, [], a, ls, js, _, _ => by simp [visit_nil]
  | 0, .node l ts :: rest, _, _, _, _, hlen => by simp at hlen
  | fuel + 1, .node l ts :: rest, a, ls, js, hspan, hlen => by
    have hroot : a.Spans (.node l ts) := hspan _ (List.mem_cons_self ..)
    obtain ⟨hch, hsub⟩ : (a.link l).children.toList = ts.map LinkTree.root ∧ ∀ t ∈ ts, a.Spans t := by
      cases hroot with
      | node _ _ hch _ hsub => exact ⟨hch, hsub⟩
    -- the stamped assembly spans the same trees
    have hspan' : ∀ t ∈ ts ++ rest, (stamp b (a, ls, js) l).1.Spans t := by
      intro t ht
      refine Spans.congr (children_stamp b _ l) (parent_stamp b _ l) ?_
      rcases List.mem_append.1 ht with ht | ht
      · exact hsub t ht
      · exact hspan t (List.mem_cons_of_mem _ ht)
    have hlen' : (LinkTree.preorderAll (ts ++ rest)).length ≤ fuel := by
      rw [LinkTree.preorderAll_node_cons, List.length_cons] at hlen
      omega
    rw [List.map_cons, LinkTree.root_node, visit_succ_cons, hch, ← List.map_append,
      visit_eq_foldl b fuel (ts ++ rest) _ _ _ hspan' hlen', LinkTree.preorderAll_node_cons, List.foldl_cons]

/-! ## The places a fold of visits hands out -/

/-- The places an indexing has handed out so far: each listed link holds its
place and the body, each listed joint its number, every other listed link
the joint number `-1`, and every joint is a listed link. -/
structure Placed (b : BodyId) (acc : Assembly × Array LinkId × Array LinkId) : Prop where
  index : ∀ i (h : i < acc.2.1.size), (acc.1.link acc.2.1[i]).index = i
  body : ∀ l ∈ acc.2.1, (acc.1.link l).body = some b
  jointId : ∀ j (h : j < acc.2.2.size), (acc.1.link acc.2.2[j]).jointId = j
  unactuated : ∀ l ∈ acc.2.1, (acc.1.link l).jointType.isActuated = false → (acc.1.link l).jointId = -1
  joints_mem : ∀ l ∈ acc.2.2, l ∈ acc.2.1

theorem placed_empty (b : BodyId) (a : Assembly) : Placed b (a, #[], #[]) where
  index i h := absurd h (Nat.not_lt_zero i)
  body l h := absurd h (by simp)
  jointId j h := absurd h (Nat.not_lt_zero j)
  unactuated l h := absurd h (by simp)
  joints_mem l h := absurd h (by simp)

theorem Placed.stamp {acc : Assembly × Array LinkId × Array LinkId} {l : LinkId} (hp : Placed b acc)
    (hl : l ∉ acc.2.1) (hr : l.idx < acc.1.links.size) : Placed b (stamp b acc l) := by
  -- the visited link is set; the listed ones, all different from it, are not
  have hnew : (Assembly.stamp b acc l).1.link l =
      { acc.1.link l with index := acc.2.1.size, body := some b,
                          jointId := if (acc.1.link l).jointType.isActuated then (acc.2.2.size : Int) else -1 } := by
    simp [Assembly.stamp, link_setLink, hr]
  have hold : ∀ x ∈ acc.2.1, (Assembly.stamp b acc l).1.link x = acc.1.link x :=
    fun x hx => link_stamp_of_ne b acc l (fun h => hl (h ▸ hx))
  constructor
  · intro i hi
    simp only [lists_stamp, Array.getElem_push]
    split
    · rename_i h
      rw [hold _ (Array.getElem_mem h)]
      exact hp.index i h
    · rw [hnew]
      simp only [lists_stamp, Array.size_push] at hi
      simp only
      omega
  · intro x hx
    rcases Array.mem_push.1 hx with hx | rfl
    · rw [hold x hx]
      exact hp.body x hx
    · rw [hnew]
  · intro j hj
    by_cases hact : (acc.1.link l).jointType.isActuated = true
    · simp only [joints_stamp, hact, if_true, Array.getElem_push] at hj ⊢
      split
      · rename_i h
        rw [hold _ (hp.joints_mem _ (Array.getElem_mem h))]
        exact hp.jointId j h
      · rw [hnew]
        simp only [Array.size_push] at hj
        simp only [hact, if_true]
        omega
    · simp only [joints_stamp, hact, Bool.false_eq_true, if_false] at hj ⊢
      rw [hold _ (hp.joints_mem _ (Array.getElem_mem hj))]
      exact hp.jointId j hj
  · intro x hx hna
    rcases Array.mem_push.1 hx with hx | rfl
    · rw [hold x hx] at hna ⊢
      exact hp.unactuated x hx hna
    · rw [hnew] at hna ⊢
      simp only at hna
      simp [hna]
  · intro x hx
    rw [joints_stamp] at hx
    split at hx
    · rcases Array.mem_push.1 hx with hx | rfl
      · exact Array.mem_push_of_mem _ (hp.joints_mem x hx)
      · exact Array.mem_push_self
    · exact Array.mem_push_of_mem _ (hp.joints_mem x hx)

theorem Placed.foldl :
    ∀ (L : List LinkId) (acc : Assembly × Array LinkId × Array LinkId), Placed b acc → L.Nodup →
      (∀ l ∈ L, l ∉ acc.2.1) → (∀ l ∈ L, l.idx < acc.1.links.size) →
      Placed b (L.foldl (Assembly.stamp b) acc) ∧ (L.foldl (Assembly.stamp b) acc).2.1.toList = acc.2.1.toList ++ L ∧
        (L.foldl (Assembly.stamp b) acc).2.2.toList =
          acc.2.2.toList ++ L.filter fun l => (acc.1.link l).jointType.isActuated
  | [], acc, hp, _, _, _ => ⟨hp, by simp, by simp⟩
  | l :: L, acc, hp, hnd, hnew, hr => by
    have hl : l ∉ L := (List.nodup_cons.1 hnd).1
    have hp' := hp.stamp (hnew l (List.mem_cons_self ..)) (hr l (List.mem_cons_self ..))
    obtain ⟨hP, hls, hjs⟩ := Placed.foldl L (Assembly.stamp b acc l) hp' (List.nodup_cons.1 hnd).2
      (fun x hx hmem => by
        rcases Array.mem_push.1 hmem with h | rfl
        · exact hnew x (List.mem_cons_of_mem _ hx) h
        · exact hl hx)
      (fun x hx => by rw [size_stamp]; exact hr x (List.mem_cons_of_mem _ hx))
    refine ⟨hP, by simp [List.foldl_cons, hls], ?_⟩
    rw [List.foldl_cons, hjs]
    -- the visit keeps every joint type, so the later joints are filtered alike
    have hfilter : (L.filter fun x => ((Assembly.stamp b acc l).1.link x).jointType.isActuated) =
        L.filter fun x => (acc.1.link x).jointType.isActuated :=
      List.filter_congr fun x _ => by rw [jointType_stamp]
    rw [hfilter]
    by_cases hact : (acc.1.link l).jointType.isActuated = true
    · simp [Assembly.stamp, hact]
    · simp [Assembly.stamp, hact]

/-! ## The indexed body -/

theorem length_le_of_nodup {L : List LinkId} (hnd : L.Nodup) (hr : ∀ l ∈ L, l.idx < a.links.size) :
    L.length ≤ a.links.size := by
  have hinj : Function.Injective LinkId.idx := fun x y h => by
    cases x
    cases y
    simp_all
  have hsub : (L.map LinkId.idx).Subperm (List.range a.links.size) :=
    List.subperm_of_subset (hnd.map hinj) fun n hn => by
      obtain ⟨l, hl, rfl⟩ := List.mem_map.1 hn
      exact List.mem_range.2 (hr l hl)
  simpa using List.Subperm.length_le hsub

theorem lt_size_of_root {r : LinkId} (h : (a.body b).root = some r) : b.idx < a.bodies.size := by
  by_contra hb
  simp [body, Array.getD_eq_getD_getElem?, Nat.le_of_not_lt hb] at h
  cases h

theorem body_modifyBody_self (f : Body → Body) (hb : b.idx < a.bodies.size) :
    (a.modifyBody b f).body b = f (a.body b) := by
  simp [modifyBody, body, Array.getD_eq_getD_getElem?, hb, Array.getElem_modify_self]

@[simp] theorem link_modifyBody (b : BodyId) (f : Body → Body) (l : LinkId) :
    (a.modifyBody b f).link l = a.link l := rfl

theorem linkAt?_eq_none_iff (i : Int) :
    a.linkAt? b i = none ↔ i < 0 ∨ ((a.body b).links.size : Int) ≤ i := by
  unfold linkAt?
  split
  · simp_all
  · rw [Array.getElem?_eq_none_iff]
    omega

theorem jointAt?_eq_none_iff (i : Int) :
    a.jointAt? b i = none ↔ i < 0 ∨ ((a.body b).joints.size : Int) ≤ i := by
  unfold jointAt?
  split
  · simp_all
  · rw [Array.getElem?_eq_none_iff]
    omega

/-- Body `b` of `a` indexed over the tree `t` that `a` spans below its root:
its links are those of `t`, once each in depth-first pre-order, each holding
its place and the body; every link but the first has its parent at an
earlier place; its joints are the revolute and prismatic links in the same
order, each holding its number, every other link holding `-1`; and looking a
link up by place, or a joint by number, finds nothing exactly out of range. -/
structure Indexed (a : Assembly) (b : BodyId) (t : LinkTree) : Prop where
  root : (a.body b).root = some t.root
  spans : a.Spans t
  links : (a.body b).links.toList = t.preorder
  nodup : (a.body b).links.toList.Nodup
  index : ∀ i (h : i < (a.body b).links.size), (a.link (a.body b).links[i]).index = i
  body : ∀ l ∈ (a.body b).links, (a.link l).body = some b
  parent : ∀ i (h : i < (a.body b).links.size), 0 < i →
    ∃ p, (a.link (a.body b).links[i]).parent = some p ∧ (a.link p).index < i
  joints : (a.body b).joints.toList = t.preorder.filter fun l => (a.link l).jointType.isActuated
  jointId : ∀ j (h : j < (a.body b).joints.size), (a.link (a.body b).joints[j]).jointId = j
  unactuated : ∀ l ∈ (a.body b).links, (a.link l).jointType.isActuated = false → (a.link l).jointId = -1
  linkAt : ∀ i, a.linkAt? b i = none ↔ i < 0 ∨ ((a.body b).links.size : Int) ≤ i
  jointAt : ∀ i, a.jointAt? b i = none ↔ i < 0 ∨ ((a.body b).joints.size : Int) ≤ i

theorem updateLinkTree_eq_foldl {t : LinkTree} (hroot : (a.body b).root = some t.root)
    (hspan : a.Spans t) (hnd : t.preorder.Nodup) (hr : ∀ l ∈ t.preorder, l.idx < a.links.size) :
    a.updateLinkTree b =
      (t.preorder.foldl (stamp b) (a, #[], #[])).1.modifyBody b fun bd =>
        { bd with links := (t.preorder.foldl (stamp b) (a, #[], #[])).2.1,
                  joints := (t.preorder.foldl (stamp b) (a, #[], #[])).2.2 } := by
  have hfold : updateLinkTree.visit b (a.links.size + 1) [t.root] a #[] #[] =
      t.preorder.foldl (stamp b) (a, #[], #[]) := by
    have h := visit_eq_foldl b (a.links.size + 1) [t] a #[] #[] (by simpa using hspan)
      (by simpa using Nat.le_succ_of_le (length_le_of_nodup hnd hr))
    simpa using h
  simp only [updateLinkTree, hroot, hfold]

theorem updateLinkTree_keeps {t : LinkTree} (hroot : (a.body b).root = some t.root)
    (hspan : a.Spans t) (hnd : t.preorder.Nodup) (hr : ∀ l ∈ t.preorder, l.idx < a.links.size)
    {β : Type} (g : Link → β)
    (hg : ∀ (lk : Link) (i j : Int), g { lk with index := i, body := some b, jointId := j } = g lk) (x : LinkId) :
    g ((a.updateLinkTree b).link x) = g (a.link x) := by
  rw [updateLinkTree_eq_foldl hroot hspan hnd hr, link_modifyBody]
  exact Sim.foldl_keeps (fun y : Assembly × Array LinkId × Array LinkId => g (y.1.link x)) (stamp b)
    (fun y l => stamp_keeps b y l g hg x) _ _

theorem size_updateLinkTree {t : LinkTree} (hroot : (a.body b).root = some t.root)
    (hspan : a.Spans t) (hnd : t.preorder.Nodup) (hr : ∀ l ∈ t.preorder, l.idx < a.links.size) :
    (a.updateLinkTree b).links.size = a.links.size := by
  rw [updateLinkTree_eq_foldl hroot hspan hnd hr]
  exact Sim.foldl_keeps (fun y : Assembly × Array LinkId × Array LinkId => y.1.links.size) (stamp b)
    (fun y l => size_stamp b y l) _ _

theorem link_foldl_stamp_of_not_mem {x : LinkId} :
    ∀ (L : List LinkId) (acc : Assembly × Array LinkId × Array LinkId), x ∉ L →
      (L.foldl (stamp b) acc).1.link x = acc.1.link x
  | [], _, _ => rfl
  | l :: L, acc, hx => by
    rw [List.mem_cons, not_or] at hx
    rw [List.foldl_cons, link_foldl_stamp_of_not_mem L _ hx.2, link_stamp_of_ne b acc l (Ne.symm hx.1)]

section Frame

variable {t : LinkTree} (hroot : (a.body b).root = some t.root) (hspan : a.Spans t) (hnd : t.preorder.Nodup)
  (hr : ∀ l ∈ t.preorder, l.idx < a.links.size)
include hroot hspan hnd hr

theorem link_updateLinkTree_of_not_mem {x : LinkId} (hx : x ∉ t.preorder) :
    (a.updateLinkTree b).link x = a.link x := by
  rw [updateLinkTree_eq_foldl hroot hspan hnd hr, link_modifyBody]
  exact link_foldl_stamp_of_not_mem _ _ hx

theorem nextIdentity_updateLinkTree : (a.updateLinkTree b).nextIdentity = a.nextIdentity := by
  rw [updateLinkTree_eq_foldl hroot hspan hnd hr]
  exact Sim.foldl_keeps (fun y : Assembly × Array LinkId × Array LinkId => y.1.nextIdentity) (stamp b)
    (fun _ _ => rfl) _ _

theorem size_bodies_updateLinkTree : (a.updateLinkTree b).bodies.size = a.bodies.size := by
  rw [updateLinkTree_eq_foldl hroot hspan hnd hr]
  simp only [modifyBody, Array.size_modify]
  exact congrArg Array.size (Sim.foldl_keeps (fun y : Assembly × Array LinkId × Array LinkId => y.1.bodies)
    (stamp b) (fun _ _ => rfl) _ _)

theorem body_updateLinkTree (d : BodyId) :
    ∃ ls js, (a.updateLinkTree b).body d = if d = b then { a.body d with links := ls, joints := js } else a.body d := by
  have hbodies : (t.preorder.foldl (stamp b) (a, #[], #[])).1.bodies = a.bodies :=
    Sim.foldl_keeps (fun y : Assembly × Array LinkId × Array LinkId => y.1.bodies) (stamp b) (fun _ _ => rfl) _ _
  rw [updateLinkTree_eq_foldl hroot hspan hnd hr]
  refine ⟨(t.preorder.foldl (stamp b) (a, #[], #[])).2.1, (t.preorder.foldl (stamp b) (a, #[], #[])).2.2, ?_⟩
  simp only [modifyBody, body, Array.getD_eq_getD_getElem?, Array.getElem?_modify, hbodies]
  by_cases hd : d = b
  · subst hd
    simp [Array.getElem?_eq_getElem (lt_size_of_root hroot)]
  · have hidx : b.idx ≠ d.idx := fun h => hd (by cases b; cases d; simp_all)
    simp [hd, hidx]

end Frame

theorem updateLinkTree_indexed {t : LinkTree} (hroot : (a.body b).root = some t.root)
    (hspan : a.Spans t) (hnd : t.preorder.Nodup) (hr : ∀ l ∈ t.preorder, l.idx < a.links.size) :
    (a.updateLinkTree b).Indexed b t := by
  obtain ⟨hP, hls, hjs⟩ := Placed.foldl (b := b) t.preorder (a, #[], #[]) (placed_empty b a) hnd
    (by simp) hr
  simp only [List.nil_append] at hls hjs
  set acc := t.preorder.foldl (stamp b) (a, #[], #[]) with hacc
  have hbodies : acc.1.bodies = a.bodies :=
    Sim.foldl_keeps (fun x : Assembly × Array LinkId × Array LinkId => x.1.bodies) (stamp b) (fun _ _ => rfl) _ _
  have hb : b.idx < acc.1.bodies.size := by
    rw [hbodies]
    exact lt_size_of_root hroot
  -- the body after indexing, and the links it reads
  have hbody : (a.updateLinkTree b).body b = { acc.1.body b with links := acc.2.1, joints := acc.2.2 } := by
    rw [updateLinkTree_eq_foldl hroot hspan hnd hr, body_modifyBody_self _ hb]
  have hlink : ∀ x, (a.updateLinkTree b).link x = acc.1.link x := by
    intro x
    rw [updateLinkTree_eq_foldl hroot hspan hnd hr, link_modifyBody]
  -- the fold changes no children, parents or joint types
  have hkeep : ∀ {β : Type} (g : Link → β),
      (∀ (lk : Link) (i j : Int), g { lk with index := i, body := some b, jointId := j } = g lk) →
      ∀ x, g (acc.1.link x) = g (a.link x) := by
    intro β g hg x
    exact Sim.foldl_keeps (fun y : Assembly × Array LinkId × Array LinkId => g (y.1.link x)) (stamp b)
      (fun y l => stamp_keeps b y l g hg x) _ _
  have hjt : ∀ x, (acc.1.link x).jointType = (a.link x).jointType := hkeep Link.jointType fun _ _ _ => rfl
  have hroot' : ((a.updateLinkTree b).body b).root = some t.root := by
    have hsame : acc.1.body b = a.body b := by
      simp only [body]
      rw [hbodies]
    rw [hbody, hsame]
    exact hroot
  refine
    { root := hroot'
      spans := Spans.congr (fun x => by rw [hlink]; exact hkeep Link.children (fun _ _ _ => rfl) x)
        (fun x => by rw [hlink]; exact hkeep Link.parent (fun _ _ _ => rfl) x) hspan
      links := by rw [hbody]; exact hls
      nodup := by rw [hbody]; simpa [hls] using hnd
      index := fun i h => by
        simp only [hbody, hlink] at h ⊢
        exact hP.index i h
      body := fun l hl => by
        simp only [hbody, hlink] at hl ⊢
        exact hP.body l hl
      parent := fun i h hpos => ?_
      joints := by
        rw [hbody]
        simp only [hlink, hjt]
        exact hjs
      jointId := fun j h => by
        simp only [hbody, hlink] at h ⊢
        exact hP.jointId j h
      unactuated := fun l hl hna => by
        simp only [hbody, hlink] at hl hna ⊢
        exact hP.unactuated l hl hna
      linkAt := linkAt?_eq_none_iff
      jointAt := jointAt?_eq_none_iff }
  -- the parent comes earlier in the pre-order, and so holds a smaller place
  simp only [hbody, hlink] at h ⊢
  have hlen : i < t.preorder.length := by
    rw [← hls, Array.length_toList]
    exact h
  obtain ⟨j, hj, hpj⟩ := hspan.parent_before i hlen hpos
  have hget : acc.2.1[i] = t.preorder[i] := by
    simp only [← Array.getElem_toList, hls]
  rw [hget, hkeep Link.parent (fun _ _ _ => rfl), hpj, List.getElem?_eq_getElem (by omega)]
  refine ⟨_, rfl, ?_⟩
  have hj' : j < acc.2.1.size := by omega
  have hgetj : acc.2.1[j] = t.preorder[j] := by
    simp only [← Array.getElem_toList, hls]
  rw [← hgetj, hP.index j hj']
  exact_mod_cast hj

end Assembly

end Multibody
