import Multibody.Sim.Simulator

/-!
# Hook registries through what the next step boundary makes of them

`HookRegistry.view` is the list of hooks the next boundary makes active;
each operation has one equation through it (`view_add`, `view_remove`,
`view_apply`, `view_clear`).  While the handles are distinct and below the
counter (`Lab.HandlesIssued`), a new handle is none of them.
-/

namespace Multibody.Sim

variable {τ σ : Type}

/-- The handle a change registers, if it is a registration. -/
def HookChange.added : HookChange τ → Option Nat
  | .add id _ => some id
  | .remove _ => none

instance : LawfulBEq Phase where
  eq_of_beq {p q} h := by cases p <;> cases q <;> simp_all [BEq.beq, instBEqPhase.beq, Phase.ctorIdx]
  rfl {p} := by cases p <;> rfl

namespace HookRegistry

/-- One queued change applied to the active hooks. -/
def applyChange (es : Array (Nat × τ)) : HookChange τ → Array (Nat × τ)
  | .add id t => es.push (id, t)
  | .remove id =>
    match es.findIdx? (·.1 == id) with
    | some i => es.eraseIdxIfInBounds i
    | none => es

theorem apply_eq (r : HookRegistry τ) :
    r.apply = { pending := #[], entries := r.pending.foldl applyChange r.entries } := rfl

/-- The hooks the next step boundary makes active, in order. -/
def view (r : HookRegistry τ) : List (Nat × τ) := r.apply.entries.toList

/-- Every handle a registry holds, active or queued for registration. -/
def handles (r : HookRegistry τ) : List Nat :=
  r.entries.toList.map Prod.fst ++ r.pending.toList.filterMap HookChange.added

theorem toList_applyChange_remove (es : Array (Nat × τ)) (id : Nat) :
    (applyChange es (.remove id)).toList = es.toList.eraseP (·.1 == id) := by
  rcases es with ⟨l⟩
  rw [List.eraseP_eq_eraseIdx]
  simp only [applyChange, List.findIdx?_toArray]
  cases h : l.findIdx? (·.1 == id) <;> simp

theorem eraseP_eq_filter_of_nodup {l : List (Nat × τ)} (id : Nat) (hnd : (l.map Prod.fst).Nodup) :
    l.eraseP (·.1 == id) = l.filter (·.1 != id) := by
  induction l with
  | nil => rfl
  | cons x xs ih =>
    rw [List.map_cons, List.nodup_cons] at hnd
    by_cases hx : x.1 = id
    · -- the first hook with the handle is the only one
      have hrest : xs.filter (·.1 != id) = xs := by
        refine List.filter_eq_self.2 fun y hy => ?_
        have hne : y.1 ≠ x.1 := fun e => hnd.1 (e ▸ List.mem_map_of_mem hy)
        simpa [hx] using hne
      simp [hx, hrest]
    · simp [hx, ih hnd.2]

@[simp] theorem view_add (r : HookRegistry τ) (id : Nat) (t : τ) : (r.add id t).view = r.view ++ [(id, t)] := by
  simp [view, apply_eq, add, applyChange]

theorem view_remove (r : HookRegistry τ) (id : Nat) (hnd : (r.view.map Prod.fst).Nodup) :
    (r.remove id).view = r.view.filter (·.1 != id) := by
  simp only [view, apply_eq, remove, Array.foldl_push] at hnd ⊢
  rw [toList_applyChange_remove, eraseP_eq_filter_of_nodup id hnd]

theorem view_remove_of_not_mem (r : HookRegistry τ) {id : Nat} (h : id ∉ r.view.map Prod.fst) :
    (r.remove id).view = r.view := by
  simp only [view, apply_eq, remove, Array.foldl_push] at h ⊢
  rw [toList_applyChange_remove]
  refine List.eraseP_of_forall_not fun x hx hid => h ?_
  simp only [beq_iff_eq] at hid
  exact hid ▸ List.mem_map_of_mem hx

@[simp] theorem view_apply (r : HookRegistry τ) : r.apply.view = r.view := by
  simp [view, apply_eq]

@[simp] theorem view_clear (r : HookRegistry τ) : r.clear.view = [] := rfl

@[simp] theorem view_empty : (({} : HookRegistry τ)).view = [] := rfl

@[simp] theorem handles_add (r : HookRegistry τ) (id : Nat) (t : τ) : (r.add id t).handles = r.handles ++ [id] := by
  simp [handles, add, HookChange.added]

@[simp] theorem handles_remove (r : HookRegistry τ) (id : Nat) : (r.remove id).handles = r.handles := by
  simp [handles, remove, HookChange.added]

@[simp] theorem handles_empty : (({} : HookRegistry τ)).handles = [] := rfl

theorem map_fst_foldl_sublist :
    ∀ (cs : List (HookChange τ)) (es : Array (Nat × τ)),
      ((cs.foldl applyChange es).toList.map Prod.fst).Sublist
        (es.toList.map Prod.fst ++ cs.filterMap HookChange.added)
  | [], es => by simp
  | .add id t :: cs, es => by
    have h := map_fst_foldl_sublist cs (es.push (id, t))
    simpa [applyChange, HookChange.added] using h
  | .remove id :: cs, es => by
    have h := map_fst_foldl_sublist cs (applyChange es (.remove id))
    rw [List.foldl_cons, List.filterMap_cons]
    refine h.trans (List.Sublist.append_right ?_ _)
    rw [toList_applyChange_remove]
    exact List.eraseP_sublist.map Prod.fst

theorem map_fst_view_sublist (r : HookRegistry τ) : (r.view.map Prod.fst).Sublist r.handles := by
  rw [view, apply_eq, ← Array.foldl_toList]
  exact map_fst_foldl_sublist _ _

@[simp] theorem handles_apply (r : HookRegistry τ) : r.apply.handles = r.view.map Prod.fst := by
  simp [handles, view, apply_eq]

end HookRegistry

namespace Lab

variable (lab : Lab τ σ)

/-- Every handle in the three registries, active or queued for registration. -/
def handles : List Nat := (lab.hooksOf .pre).handles ++ (lab.hooksOf .mid).handles ++ (lab.hooksOf .post).handles

/-- The handles in the registries are distinct and none is past the counter. -/
structure HandlesIssued : Prop where
  nodup : lab.handles.Nodup
  le : ∀ id ∈ lab.handles, id ≤ lab.sim.nextHandle

theorem hooksOf_addHook (p q : Phase) (t : τ) :
    (lab.addHook p t).1.hooksOf q =
      if q == p then (lab.hooksOf q).add (lab.sim.nextHandle + 1) t else lab.hooksOf q := by
  cases p <;> cases q <;> rfl

@[simp] theorem handle_addHook (p : Phase) (t : τ) : (lab.addHook p t).2 = lab.sim.nextHandle + 1 := rfl

@[simp] theorem nextHandle_addHook (p : Phase) (t : τ) :
    (lab.addHook p t).1.sim.nextHandle = lab.sim.nextHandle + 1 := by
  cases p <;> rfl

theorem hooksOf_removeHook (p q : Phase) (id : Nat) :
    (lab.removeHook p id).hooksOf q = if q == p then (lab.hooksOf q).remove id else lab.hooksOf q := by
  cases p <;> cases q <;> rfl

@[simp] theorem nextHandle_removeHook (p : Phase) (id : Nat) :
    (lab.removeHook p id).sim.nextHandle = lab.sim.nextHandle := by
  cases p <;> rfl

theorem view_addHook_self (p : Phase) (t : τ) :
    ((lab.addHook p t).1.hooksOf p).view = (lab.hooksOf p).view ++ [((lab.addHook p t).2, t)] := by
  rw [hooksOf_addHook, if_pos (beq_self_eq_true p), HookRegistry.view_add, handle_addHook]

theorem hooksOf_addHook_of_ne {p q : Phase} (hqp : q ≠ p) (t : τ) : (lab.addHook p t).1.hooksOf q = lab.hooksOf q := by
  rw [hooksOf_addHook, if_neg (by simpa using hqp)]

theorem hooksOf_removeHook_of_ne {p q : Phase} (hqp : q ≠ p) (id : Nat) :
    (lab.removeHook p id).hooksOf q = lab.hooksOf q := by
  rw [hooksOf_removeHook, if_neg (by simpa using hqp)]

theorem hooksOf_removeHook_self (p : Phase) (id : Nat) :
    (lab.removeHook p id).hooksOf p = (lab.hooksOf p).remove id := by
  rw [hooksOf_removeHook, if_pos (beq_self_eq_true p)]

theorem perm_handles_addHook (p : Phase) (t : τ) :
    (lab.addHook p t).1.handles.Perm (lab.handles ++ [lab.sim.nextHandle + 1]) := by
  cases p with
  | pre =>
    -- the handle lands before those of the other phases: count every handle
    simp [handles, hooksOf_addHook, List.perm_iff_count, List.count_cons, List.count_append]
    omega
  | mid => simp [handles, hooksOf_addHook, List.perm_iff_count, List.count_cons, List.count_append]
  | post => simp [handles, hooksOf_addHook]

theorem handles_removeHook (p : Phase) (id : Nat) : (lab.removeHook p id).handles = lab.handles := by
  cases p <;> simp [handles, hooksOf_removeHook]

theorem handle_addHook_not_mem {lab : Lab τ σ} (hi : lab.HandlesIssued) (p : Phase) (t : τ) :
    (lab.addHook p t).2 ∉ lab.handles := fun hmem => by
  have := hi.le _ hmem
  simp only [handle_addHook] at this
  omega

theorem HandlesIssued.addHook {lab : Lab τ σ} (hi : lab.HandlesIssued) (p : Phase) (t : τ) :
    (lab.addHook p t).1.HandlesIssued := by
  have hperm := lab.perm_handles_addHook p t
  refine ⟨hperm.nodup_iff.2 ?_, fun id hid => ?_⟩
  · exact List.nodup_append.2 ⟨hi.nodup, by simp,
      fun a ha b hb => by
        rw [List.mem_singleton] at hb
        subst hb
        have := hi.le a ha
        omega⟩
  · rw [hperm.mem_iff, List.mem_append, List.mem_singleton] at hid
    rw [nextHandle_addHook]
    rcases hid with hid | rfl
    · exact Nat.le_succ_of_le (hi.le id hid)
    · exact Nat.le_refl _

theorem HandlesIssued.removeHook {lab : Lab τ σ} (hi : lab.HandlesIssued) (p : Phase) (id : Nat) :
    (lab.removeHook p id).HandlesIssued := by
  refine ⟨?_, fun x hx => ?_⟩
  · rw [handles_removeHook]
    exact hi.nodup
  · rw [handles_removeHook] at hx
    rw [nextHandle_removeHook]
    exact hi.le x hx

theorem HandlesIssued.nodup_view {lab : Lab τ σ} (hi : lab.HandlesIssued) (p : Phase) :
    ((lab.hooksOf p).view.map Prod.fst).Nodup := by
  have hsub : ((lab.hooksOf p).handles).Sublist lab.handles := by
    cases p <;> simp [handles]
  exact (((lab.hooksOf p).map_fst_view_sublist).trans hsub).nodup hi.nodup

theorem HandlesIssued.nodup_views {lab : Lab τ σ} (hi : lab.HandlesIssued) :
    ((lab.hooksOf .pre).view.map Prod.fst ++ (lab.hooksOf .mid).view.map Prod.fst ++
      (lab.hooksOf .post).view.map Prod.fst).Nodup :=
  ((((lab.hooksOf .pre).map_fst_view_sublist.append (lab.hooksOf .mid).map_fst_view_sublist).append
    (lab.hooksOf .post).map_fst_view_sublist)).nodup hi.nodup

theorem HandlesIssued.phase_eq {lab : Lab τ σ} (hi : lab.HandlesIssued) {p q : Phase} {id : Nat}
    (hp : id ∈ (lab.hooksOf p).handles) (hq : id ∈ (lab.hooksOf q).handles) : p = q := by
  have hnd := hi.nodup
  simp only [handles, List.nodup_append, List.mem_append] at hnd
  obtain ⟨⟨-, -, hpm⟩, -, hpost⟩ := hnd
  -- the handles of two phases are disjoint
  cases p <;> cases q
  · rfl
  · exact absurd rfl (hpm id hp id hq)
  · exact absurd rfl (hpost id (Or.inl hp) id hq)
  · exact absurd rfl (hpm id hq id hp)
  · rfl
  · exact absurd rfl (hpost id (Or.inr hp) id hq)
  · exact absurd rfl (hpost id (Or.inl hq) id hp)
  · exact absurd rfl (hpost id (Or.inr hq) id hp)
  · rfl

theorem HandlesIssued.not_mem_view_of_ne {lab : Lab τ σ} (hi : lab.HandlesIssued) {p q : Phase} (hpq : p ≠ q)
    {id : Nat} (hq : id ∈ (lab.hooksOf q).handles) : id ∉ (lab.hooksOf p).view.map Prod.fst := fun hp =>
  hpq (hi.phase_eq (((lab.hooksOf p).map_fst_view_sublist).subset hp) hq)

end Lab

end Multibody.Sim
