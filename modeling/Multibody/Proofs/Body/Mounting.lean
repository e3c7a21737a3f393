import Multibody.Proofs.Body.Kinematics
import Mathlib.Logic.Relation
import Mathlib.Data.List.Chain

/-!
# Mounting and the parent relation

`Assembly.mount` refuses only a missing link or one of the body itself
(`mount_ok`, `mount_cases`), so two mounts can close a cycle
(`mounting_back_closes_a_cycle`).  A mount keeps the parent relation acyclic
exactly when the new parent does not hang from the mounted root
(`mount_acyclic`), unmount always does (`unmount_acyclic`), and so does
every such sequence of calls (`applyCalls_acyclic`); then `isStatic`
follows the walk up the parents (`isStatic_iff`).
-/

namespace Multibody

namespace Assembly

variable {a a' : Assembly} {b : BodyId} {l p r : LinkId}

/-- Link `l` hangs from link `p`. -/
def ParentStep (a : Assembly) (l p : LinkId) : Prop := (a.link l).parent = some p

/-- No link hangs, through its parents, from itself. -/
def ParentsAcyclic (a : Assembly) : Prop := ∀ l, ¬ Relation.TransGen a.ParentStep l l

theorem lt_size_of_parentStep (h : a.ParentStep l p) : l.idx < a.links.size := by
  by_contra hl
  have hdef : a.link l = default := by simp [link, Array.getD_eq_getD_getElem?, Nat.le_of_not_lt hl]
  rw [ParentStep, hdef] at h
  cases h

theorem parentStep_modifyLink (f : Link → Link) (x y : LinkId) :
    (a.modifyLink r f).ParentStep x y ↔
      if r = x ∧ x.idx < a.links.size then (f (a.link x)).parent = some y else a.ParentStep x y := by
  rw [ParentStep, link_modifyLink]
  split <;> rfl

theorem transGen_of_le_add {R R' : LinkId → LinkId → Prop} (hle : ∀ x y, R' x y → R x y ∨ (x = r ∧ y = p))
    {x y : LinkId} (h : Relation.TransGen R' x y) :
    Relation.TransGen R x y ∨ (Relation.ReflTransGen R x r ∧ Relation.ReflTransGen R p y) := by
  induction h with
  | single hxy =>
    rcases hle _ _ hxy with h | ⟨rfl, rfl⟩
    · exact .inl (.single h)
    · exact .inr ⟨.refl, .refl⟩
  | tail _ hyz ih =>
    rcases hle _ _ hyz with h | ⟨rfl, rfl⟩
    · rcases ih with ih | ⟨h₁, h₂⟩
      · exact .inl (ih.tail h)
      · exact .inr ⟨h₁, h₂.tail h⟩
    · rcases ih with ih | ⟨h₁, -⟩
      · exact .inr ⟨ih.to_reflTransGen, .refl⟩
      · exact .inr ⟨h₁, .refl⟩

/-! ## Mount and unmount -/

/-- What a mount can do: refuse a missing parent link, or a link of the body
itself, with a message naming the body, and change nothing; or hang the
body's root from a link of another body at the offset. -/
theorem mount_cases {parent : Option LinkId} {offset : Mat4} {res : Assembly × Option String}
    (h : a.mount b parent offset = .ok res) :
    (res.1 = a ∧
      (parent = none ∧ res.2 = some ("mount " ++ (a.body b).name ++ ": nil parent link") ∨
        ∃ p, parent = some p ∧ (a.link p).body = some b ∧
          res.2 = some ("mount " ++ (a.body b).name ++ ": parent link belongs to the same body"))) ∨
    ∃ p r, parent = some p ∧ (a.link p).body ≠ some b ∧ (a.body b).root = some r ∧ res.2 = none ∧
      res.1 = a.modifyLink r fun l => { l with parent := some p, offset := offset } := by
  unfold mount at h
  cases parent with
  | none =>
    simp only [pure, Except.pure, Except.ok.injEq] at h
    exact .inl ⟨by rw [← h], .inl ⟨rfl, by rw [← h]⟩⟩
  | some p =>
    simp only at h
    by_cases hb : (a.link p).body = some b
    · simp only [hb, beq_self_eq_true, if_true, pure, Except.pure, Except.ok.injEq] at h
      exact .inl ⟨by rw [← h], .inr ⟨p, rfl, hb, by rw [← h]⟩⟩
    · have hb' : ((a.link p).body == some b) = false := by simpa using hb
      simp only [hb', Bool.false_eq_true, if_false, bind, Except.bind] at h
      cases hr : a.rootOf b with
      | error e => simp [hr] at h
      | ok r =>
        simp only [hr, pure, Except.pure, Except.ok.injEq] at h
        exact .inr ⟨p, r, rfl, hb, root_of_rootOf hr, by rw [← h], by rw [← h]⟩

theorem mount_ok (hr : (a.body b).root = some r) (parent : Option LinkId) (offset : Mat4) :
    ∃ res, a.mount b parent offset = .ok res := by
  unfold mount
  cases parent with
  | none => exact ⟨_, rfl⟩
  | some p =>
    have hroot : a.rootOf b = .ok r := by simp [rootOf, hr]
    simp only [bind, Except.bind, hroot]
    split <;> exact ⟨_, rfl⟩

theorem unmount_cases (h : a.unmount b = .ok a') :
    ∃ r, (a.body b).root = some r ∧
      (a.hasParentBody (a.link r) = true ∧ a' = a.modifyLink r (fun l => { l with parent := none }) ∨
        a.hasParentBody (a.link r) = false ∧ a' = a) := by
  unfold unmount at h
  cases hr : a.rootOf b with
  | error e => simp [hr, bind, Except.bind] at h
  | ok r =>
    simp only [hr, bind, Except.bind] at h
    refine ⟨r, root_of_rootOf hr, ?_⟩
    cases hm : a.hasParentBody (a.link r)
    · simp only [hm, Bool.false_eq_true, if_false, pure, Except.pure, Except.ok.injEq] at h
      exact .inr ⟨rfl, h.symm⟩
    · simp only [hm, if_true, pure, Except.pure, Except.ok.injEq] at h
      exact .inl ⟨rfl, h.symm⟩

theorem unmount_ok (hr : (a.body b).root = some r) : ∃ a', a.unmount b = .ok a' := by
  have hroot : a.rootOf b = .ok r := by simp [rootOf, hr]
  unfold unmount
  simp only [bind, Except.bind, hroot]
  split <;> exact ⟨_, rfl⟩

theorem unmount_of_unmounted (hr : (a.body b).root = some r) (h : a.parentBodyLink? b = none) :
    a.unmount b = .ok a := by
  have hm : a.hasParentBody (a.link r) = false := by
    unfold parentBodyLink? at h
    rw [hr] at h
    cases hm : a.hasParentBody (a.link r)
    · rfl
    · -- a link that hangs from another body has a parent
      simp only [hm, if_true] at h
      unfold hasParentBody at hm
      rw [h] at hm
      cases hm
  obtain ⟨a', ha'⟩ := unmount_ok hr
  obtain ⟨r', hr', ⟨hm', -⟩ | ⟨-, rfl⟩⟩ := unmount_cases ha'
  · rw [hr] at hr'
    cases hr'
    rw [hm] at hm'
    cases hm'
  · exact ha'

theorem unmount_keeps_pose (h : a.unmount b = .ok a') :
    a'.parentBodyLink? b = none ∧ ∀ l, (a'.link l).pose = (a.link l).pose := by
  obtain ⟨r, hr, ⟨-, rfl⟩ | ⟨hm, rfl⟩⟩ := unmount_cases h
  · refine ⟨?_, fun l =>
      @link_modifyLink_keeps a _ Link.pose (fun l => { l with parent := none }) (fun _ => rfl) r l⟩
    have hnone : ((a.modifyLink r fun l => { l with parent := none }).link r).parent = none := by
      rw [link_modifyLink]
      split <;> rename_i hrs
      · rfl
      · -- the missing root has no parent either
        have hout : ¬ r.idx < a.links.size := fun h => hrs ⟨rfl, h⟩
        simp only [link, Array.getD_eq_getD_getElem?, Array.getElem?_eq_none (Nat.le_of_not_lt hout),
          Option.getD_none]
        rfl
    unfold parentBodyLink? hasParentBody
    simp only [body_modifyLink, hr, hnone]
    rfl
  · refine ⟨?_, fun _ => rfl⟩
    unfold parentBodyLink?
    simp only [hr, hm, Bool.false_eq_true, if_false]

/-! ## The parent relation under mounts -/

theorem mount_acyclic {offset : Mat4} (hacyc : a.ParentsAcyclic) (h : a.mount b (some p) offset = .ok (a', none))
    (hr : (a.body b).root = some r) (hp : ¬ Relation.ReflTransGen a.ParentStep p r) : a'.ParentsAcyclic := by
  obtain ⟨-, hnone⟩ | ⟨p', r', hp', -, hr', -, ha'⟩ := mount_cases h
  · rcases hnone with ⟨h', -⟩ | ⟨_, _, _, h'⟩ <;> cases h'
  cases hp'
  rw [hr] at hr'
  cases hr'
  dsimp only at ha'
  -- the mount replaces the root's step by the step to `p`
  have hle : ∀ x y, a'.ParentStep x y → a.ParentStep x y ∨ (x = r ∧ y = p) := by
    intro x y hxy
    rw [ha', parentStep_modifyLink] at hxy
    split at hxy
    · rename_i hx
      exact .inr ⟨hx.1.symm, (Option.some.inj hxy).symm⟩
    · exact .inl hxy
  intro x hx
  rcases transGen_of_le_add hle hx with hx | ⟨h₁, h₂⟩
  · exact hacyc x hx
  · exact hp (h₂.trans h₁)

theorem reflTransGen_modifyLink_of_end (f : Link → Link) {x : LinkId}
    (h : Relation.ReflTransGen a.ParentStep x r) : Relation.ReflTransGen (a.modifyLink r f).ParentStep x r := by
  induction h using Relation.ReflTransGen.head_induction_on with
  | refl => exact .refl
  | @head x y hxy _ ih =>
    by_cases hx : x = r
    · rw [hx]
    · refine .head ?_ ih
      rw [parentStep_modifyLink, if_neg (fun h => hx h.1.symm)]
      exact hxy

theorem mount_cycle {offset : Mat4} (h : a.mount b (some p) offset = .ok (a', none))
    (hr : (a.body b).root = some r) (hrs : r.idx < a.links.size) (hp : Relation.ReflTransGen a.ParentStep p r) :
    ¬ a'.ParentsAcyclic := by
  obtain ⟨-, hnone⟩ | ⟨p', r', hp', -, hr', -, ha'⟩ := mount_cases h
  · rcases hnone with ⟨h', -⟩ | ⟨_, _, _, h'⟩ <;> cases h'
  cases hp'
  rw [hr] at hr'
  cases hr'
  dsimp only at ha'
  subst ha'
  -- the new step from the root to `p`, then the old path from `p` back to the root
  have hstep : (a.modifyLink r fun l => { l with parent := some p, offset := offset }).ParentStep r p := by
    rw [parentStep_modifyLink, if_pos ⟨rfl, hrs⟩]
  exact fun hacyc => hacyc r (Relation.TransGen.head' hstep (reflTransGen_modifyLink_of_end _ hp))

theorem unmount_acyclic (hacyc : a.ParentsAcyclic) (h : a.unmount b = .ok a') : a'.ParentsAcyclic := by
  obtain ⟨r, -, ⟨-, ha'⟩ | ⟨-, rfl⟩⟩ := unmount_cases h
  · have hle : ∀ x y, a'.ParentStep x y → a.ParentStep x y := by
      intro x y hxy
      rw [ha', parentStep_modifyLink] at hxy
      split at hxy
      · cases hxy
      · exact hxy
    exact fun x hx => hacyc x (Relation.TransGen.mono hle _ _ hx)
  · exact hacyc

/-! ## Sequences of calls -/

/-- A call of the mounting interface. -/
inductive MountCall where
  | mount (b : BodyId) (parent : Option LinkId) (offset : Mat4)
  | unmount (b : BodyId)

namespace MountCall

/-- The assembly after a call, or the fault of a body without a root. -/
def apply : MountCall → Assembly → Except Fault Assembly
  | .mount b parent offset, a => (a.mount b parent offset).map Prod.fst
  | .unmount b, a => a.unmount b

/-- The call cannot close a cycle: it hangs no body from a link below the
body's own root. -/
def Keeps (a : Assembly) : MountCall → Prop
  | .mount b (some p) _ => ∀ r, (a.body b).root = some r → ¬ Relation.ReflTransGen a.ParentStep p r
  | _ => True

theorem apply_acyclic {c : MountCall} (hacyc : a.ParentsAcyclic) (hc : c.Keeps a) (h : c.apply a = .ok a') :
    a'.ParentsAcyclic := by
  cases c with
  | unmount b => exact unmount_acyclic hacyc h
  | mount b parent offset =>
    simp only [apply] at h
    cases hm : a.mount b parent offset with
    | error e => simp [hm, Except.map] at h
    | ok res =>
      simp only [hm, Except.map, Except.ok.injEq] at h
      subst h
      rcases mount_cases hm with ⟨h₁, -⟩ | ⟨p, r, rfl, -, hr, h₂, -⟩
      · rw [h₁]
        exact hacyc
      · obtain ⟨a₁, err⟩ := res
        simp only at h₂
        subst h₂
        exact mount_acyclic hacyc hm hr (hc r hr)

end MountCall

/-- Calls one after another, stopping at the first fault. -/
def applyCalls : List MountCall → Assembly → Except Fault Assembly
  | [], a => .ok a
  | c :: cs, a => (c.apply a).bind (applyCalls cs)

/-- Every call of a sequence, in the assembly it meets, cannot close a
cycle. -/
def KeepAll : List MountCall → Assembly → Prop
  | [], _ => True
  | c :: cs, a => c.Keeps a ∧ ∀ a', c.apply a = .ok a' → KeepAll cs a'

theorem applyCalls_acyclic : ∀ (cs : List MountCall) (a a' : Assembly), a.ParentsAcyclic → KeepAll cs a →
    applyCalls cs a = .ok a' → a'.ParentsAcyclic
  | [], _, _, hacyc, _, h => by
    cases h
    exact hacyc
  | c :: cs, a, a', hacyc, ⟨hc, hrest⟩, h => by
    simp only [applyCalls] at h
    cases ha : c.apply a with
    | error e => simp [ha, Except.bind] at h
    | ok a₁ =>
      simp only [ha, Except.bind] at h
      exact applyCalls_acyclic cs a₁ a' (MountCall.apply_acyclic hacyc hc ha) (hrest a₁ ha) h

/-! ## Walks up the parents -/

theorem transGen_of_mem_chain : ∀ {x : LinkId} {ys : List LinkId}, List.IsChain a.ParentStep (x :: ys) →
    ∀ z ∈ ys, Relation.TransGen a.ParentStep x z
  | _, [], _, _, hz => absurd hz List.not_mem_nil
  | x, y :: ys, h, z, hz => by
    obtain ⟨hxy, hrest⟩ := List.isChain_cons_cons.1 h
    rcases List.mem_cons.1 hz with rfl | hz
    · exact .single hxy
    · exact Relation.TransGen.head hxy (transGen_of_mem_chain hrest z hz)

theorem ParentsAcyclic.nodup_chain (hacyc : a.ParentsAcyclic) :
    ∀ {xs : List LinkId}, List.IsChain a.ParentStep xs → xs.Nodup
  | [], _ => List.nodup_nil
  | x :: ys, h => by
    refine List.nodup_cons.2 ⟨fun hx => hacyc x (transGen_of_mem_chain h x hx), ?_⟩
    exact ParentsAcyclic.nodup_chain hacyc h.tail

theorem lt_size_of_mem_dropLast : ∀ {xs : List LinkId}, List.IsChain a.ParentStep xs →
    ∀ z ∈ xs.dropLast, z.idx < a.links.size
  | [], _, _, hz => absurd hz List.not_mem_nil
  | [_], _, _, hz => absurd hz List.not_mem_nil
  | x :: y :: ys, h, z, hz => by
    obtain ⟨hxy, hrest⟩ := List.isChain_cons_cons.1 h
    rw [List.dropLast_cons_cons] at hz
    rcases List.mem_cons.1 hz with rfl | hz
    · exact lt_size_of_parentStep hxy
    · exact lt_size_of_mem_dropLast hrest z hz

theorem ParentsAcyclic.length_le (hacyc : a.ParentsAcyclic) {xs : List LinkId}
    (h : List.IsChain a.ParentStep xs) : xs.length ≤ a.links.size + 1 := by
  have hle : xs.dropLast.length ≤ a.links.size :=
    length_le_of_nodup ((hacyc.nodup_chain h).sublist (List.dropLast_sublist xs)) (lt_size_of_mem_dropLast h)
  rw [List.length_dropLast] at hle
  omega

theorem up_of_fixed : ∀ (n : Nat) (l : LinkId),
    (∀ m, Relation.ReflTransGen a.ParentStep l m → (a.link m).jointType.isFixed = true) →
    isStatic.up a n l = true
  | 0, _, _ => rfl
  | n + 1, l, h => by
    simp only [isStatic.up, h l .refl, Bool.not_true, Bool.false_eq_true, if_false]
    cases hp : (a.link l).parent with
    | none => rfl
    | some p => exact up_of_fixed n p fun m hm => h m (.head hp hm)

theorem chain_of_up : ∀ (n : Nat) (l : LinkId), isStatic.up a n l = true →
    (∃ m, Relation.ReflTransGen a.ParentStep l m ∧ (a.link m).jointType.isFixed = false) →
    ∃ xs : List LinkId, xs.length = n ∧ List.IsChain a.ParentStep (l :: xs)
  | 0, l, _, _ => ⟨[], rfl, .singleton l⟩
  | n + 1, l, h, ⟨m, hm, hnf⟩ => by
    simp only [isStatic.up] at h
    cases hfix : (a.link l).jointType.isFixed
    · simp [hfix] at h
    simp only [hfix, Bool.not_true, Bool.false_eq_true, if_false] at h
    -- the link that is not fixed lies strictly above `l`
    rcases hm.cases_head with rfl | ⟨c, hc, hcm⟩
    · rw [hfix] at hnf
      cases hnf
    rw [ParentStep] at hc
    rw [hc] at h
    obtain ⟨xs, hlen, hchain⟩ := chain_of_up n c h ⟨m, hcm, hnf⟩
    exact ⟨c :: xs, by rw [List.length_cons, hlen], .cons_cons hc hchain⟩

theorem isStatic_iff (hacyc : a.ParentsAcyclic) (l : LinkId) :
    a.isStatic l = true ↔ ∀ m, Relation.ReflTransGen a.ParentStep l m → (a.link m).jointType.isFixed = true := by
  refine ⟨fun h m hm => ?_, fun h => up_of_fixed _ l h⟩
  cases hnf : (a.link m).jointType.isFixed
  · -- a walk that missed a link that is not fixed climbed more links than there are
    obtain ⟨xs, hlen, hchain⟩ := chain_of_up _ l h ⟨m, hm, hnf⟩
    have hle := hacyc.length_le hchain
    rw [List.length_cons, hlen] at hle
    omega
  · rfl

/-! ## The link forest under mounting -/

/-- Mounting and the link forest.  Every mount and unmount of a body with a
root answers; a refused mount changes nothing, an unmount of a body that
hangs from no other body changes nothing, and an unmount keeps every pose
and leaves the body hanging from no other body.  From an acyclic assembly,
every sequence of calls none of which hangs a body from a link below its own
root ends in an acyclic assembly, where every walk up the parents visits at
most one link more than the assembly has and `isStatic` follows the walk to
its end. -/
theorem mounting_keeps_the_link_forest {a : Assembly} (hacyc : a.ParentsAcyclic) :
    (∀ (x : Assembly) (b : BodyId) (r : LinkId), (x.body b).root = some r →
      (∀ parent offset, ∃ res, x.mount b parent offset = .ok res ∧ (res.2.isSome → res.1 = x)) ∧
      (∃ x', x.unmount b = .ok x') ∧ (x.parentBodyLink? b = none → x.unmount b = .ok x) ∧
      ∀ x', x.unmount b = .ok x' → x'.parentBodyLink? b = none ∧ ∀ l, (x'.link l).pose = (x.link l).pose) ∧
    ∀ cs a', KeepAll cs a → applyCalls cs a = .ok a' →
      a'.ParentsAcyclic ∧ (∀ xs, List.IsChain a'.ParentStep xs → xs.length ≤ a'.links.size + 1) ∧
        ∀ l, a'.isStatic l = true ↔
          ∀ m, Relation.ReflTransGen a'.ParentStep l m → (a'.link m).jointType.isFixed = true := by
  refine ⟨fun x b r hr => ⟨fun parent offset => ?_, unmount_ok hr, unmount_of_unmounted hr,
      fun x' h => unmount_keeps_pose h⟩,
    fun cs a' hkeep h => ?_⟩
  · obtain ⟨res, hres⟩ := mount_ok hr parent offset
    refine ⟨res, hres, fun herr => ?_⟩
    rcases mount_cases hres with ⟨h₁, -⟩ | ⟨-, -, -, -, -, h₂, -⟩
    · exact h₁
    · rw [h₂] at herr
      cases herr
  · have hacyc' := applyCalls_acyclic cs a a' hacyc hkeep h
    exact ⟨hacyc', fun xs hxs => hacyc'.length_le hxs, isStatic_iff hacyc'⟩

/-- Two bodies of one link each, hanging from nothing. -/
def pairWorld : Assembly where
  links := #[{ name := "a", body := some ⟨0⟩, index := 0 }, { name := "b", body := some ⟨1⟩, index := 0 }]
  bodies := #[{ name := "a", modelName := "a", root := some ⟨0⟩, links := #[⟨0⟩] },
              { name := "b", modelName := "b", root := some ⟨1⟩, links := #[⟨1⟩] }]

theorem pairWorld_parent (l : LinkId) : (pairWorld.link l).parent = none := by
  rcases l with ⟨_ | _ | n⟩ <;> rfl

theorem pairWorld_mounting_keeps_the_link_forest :
    ∃ a', applyCalls [.mount ⟨1⟩ (some ⟨0⟩) Mat4.ident] pairWorld = .ok a' ∧ a'.ParentsAcyclic := by
  have hacyc : pairWorld.ParentsAcyclic := by
    intro l hl
    obtain ⟨x, hx, -⟩ := Relation.TransGen.head'_iff.1 hl
    rw [ParentStep, pairWorld_parent] at hx
    cases hx
  -- the mount hangs `b` from `a`, which hangs from nothing
  have hkeep : KeepAll [.mount ⟨1⟩ (some ⟨0⟩) Mat4.ident] pairWorld := by
    refine ⟨fun r hr hpath => ?_, fun _ _ => trivial⟩
    have hr' : (pairWorld.body ⟨1⟩).root = some ⟨1⟩ := rfl
    rw [hr'] at hr
    cases hr
    rcases hpath.cases_head with h | ⟨c, hc, -⟩
    · cases h
    · rw [ParentStep, pairWorld_parent] at hc
      cases hc
  exact ⟨_, rfl, ((mounting_keeps_the_link_forest hacyc).2 _ _ hkeep rfl).1⟩

/-- A mount checks only the body of the new parent: hanging `b` from `a`
and then `a` from `b` closes a cycle of parents. -/
theorem mounting_back_closes_a_cycle :
    ∃ a', applyCalls [.mount ⟨1⟩ (some ⟨0⟩) Mat4.ident, .mount ⟨0⟩ (some ⟨1⟩) Mat4.ident] pairWorld = .ok a' ∧
      ¬ a'.ParentsAcyclic := by
  refine ⟨_, rfl, fun hacyc => hacyc ⟨0⟩ ?_⟩
  -- `a` now hangs from `b`, which hangs from `a`
  exact @Relation.TransGen.tail LinkId _ (LinkId.mk 0) (LinkId.mk 1) (LinkId.mk 0) (.single rfl) rfl

end Assembly

end Multibody
