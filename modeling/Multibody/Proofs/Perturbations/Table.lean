import Mathlib
import Multibody.Sim.Simulator

/-!
# The perturbation table

Writers build a new table (`replaceByKey`, or an array emptied) rather than
edit one.  `latestByKey` states what a table holds: for each key, the last
setting.  From an empty table, each array holds what was set since the last
clearing of its kind (`afterLastClear`, `table_after_calls`), through
`applyCalls_perturb` and `replaceByKey_latest`.
-/

namespace Multibody.Sim

/-! ## One entry per key -/

section Latest

variable {α κ : Type} [BEq κ] [LawfulBEq κ]

theorem eraseDups_append_singleton (l : List κ) (k : κ) :
    (l ++ [k]).eraseDups = if k ∈ l then l.eraseDups else l.eraseDups ++ [k] := by
  rw [List.eraseDups_append]
  by_cases hk : k ∈ l
  · simp [List.removeAll, hk]
  · simp [List.removeAll, List.eraseDups_cons, hk]

theorem nodup_eraseDups (l : List κ) : l.eraseDups.Nodup := by
  induction l using List.reverseRecOn with
  | nil => simp
  | append_singleton l k ih =>
    rw [eraseDups_append_singleton]
    split
    · exact ih
    · rename_i hk
      refine List.nodup_append.2 ⟨ih, List.nodup_singleton k, ?_⟩
      rintro a ha b hb rfl
      exact hk (List.mem_eraseDups.1 (List.mem_singleton.1 hb ▸ ha))

/-- The table a list of settings builds: the keys in the order they were
first set, each with the last setting of its key. -/
def latestByKey (key : α → κ) (l : List α) : List α :=
  (l.map key).eraseDups.filterMap fun k => (l.filter (key · == k)).getLast?

variable (key : α → κ)

omit [LawfulBEq κ] in
@[simp] theorem latestByKey_nil : latestByKey key [] = [] := rfl

theorem getLast?_filter_of_mem {l : List α} {k : κ} (hk : k ∈ l.map key) :
    ∃ y, (l.filter (key · == k)).getLast? = some y ∧ key y = k := by
  obtain ⟨x, hx, rfl⟩ := List.mem_map.1 hk
  have hne : l.filter (key · == key x) ≠ [] := List.ne_nil_of_mem (List.mem_filter.2 ⟨hx, by simp⟩)
  obtain ⟨y, hy⟩ := Option.isSome_iff_exists.1 (List.getLast?_isSome.2 hne)
  have hmem : y ∈ l.filter (key · == key x) := List.mem_of_getLast? hy
  exact ⟨y, hy, by simpa using (List.mem_filter.1 hmem).2⟩

theorem map_latestByKey (l : List α) : (latestByKey key l).map key = (l.map key).eraseDups := by
  rw [latestByKey, List.map_filterMap]
  calc _ = (l.map key).eraseDups.filterMap some := by
        apply List.filterMap_congr
        intro k hk
        obtain ⟨y, hy, hky⟩ := getLast?_filter_of_mem key (List.mem_eraseDups.1 hk)
        rw [hy, Option.map_some, hky]
    _ = _ := List.filterMap_some

theorem nodup_map_latestByKey (l : List α) : ((latestByKey key l).map key).Nodup := by
  rw [map_latestByKey]
  exact nodup_eraseDups _

theorem latestByKey_append_singleton (l : List α) (x : α) :
    latestByKey key (l ++ [x]) =
      if key x ∈ l.map key then (latestByKey key l).map (fun y => if key y == key x then x else y)
      else latestByKey key l ++ [x] := by
  -- the last setting of a key after `x`: `x` for its key, the old one for the others
  have hlast : ∀ k, ((l ++ [x]).filter (key · == k)).getLast? =
      if key x == k then some x else (l.filter (key · == k)).getLast? := by
    intro k
    by_cases hk : key x = k
    · simp [List.filter_append, hk]
    · simp [List.filter_append, hk]
  unfold latestByKey
  rw [List.map_append, List.map_singleton, eraseDups_append_singleton]
  split
  · rename_i hx
    rw [List.map_filterMap]
    apply List.filterMap_congr
    intro k hk
    obtain ⟨y, hy, hky⟩ := getLast?_filter_of_mem key (List.mem_eraseDups.1 hk)
    rw [hlast, hy, Option.map_some]
    by_cases hxk : key x = k
    · simp [hxk, hky]
    · have hyx : (key y == key x) = false := by simpa [hky] using Ne.symm hxk
      simp [hxk, hyx]
  · rename_i hx
    rw [List.filterMap_append]
    congr 1
    · apply List.filterMap_congr
      intro k hk
      have hxk : (key x == k) = false := by
        have : k ≠ key x := fun h => hx (h ▸ List.mem_eraseDups.1 hk)
        simpa using Ne.symm this
      rw [hlast, hxk]
      rfl
    · -- the new key's last setting is `x` itself
      simp

theorem set_eq_map_of_nodup {l : List α} (hnd : (l.map key).Nodup) {i : Nat} (hi : i < l.length) {x : α}
    (hk : key l[i] = key x) : l.set i x = l.map (fun y => if key y == key x then x else y) := by
  apply List.ext_getElem (by simp)
  intro j hj₁ hj₂
  have hj : j < l.length := by simpa using hj₁
  rw [List.getElem_set, List.getElem_map]
  by_cases hij : i = j
  · subst hij
    simp [hk]
  · have hne : key l[j] ≠ key x := by
      intro hkj
      have hj' : j < (l.map key).length := by simpa using hj
      have hi' : i < (l.map key).length := by simpa using hi
      have hmap : (l.map key)[j] = (l.map key)[i] := by simp [hkj, hk]
      exact hij ((List.Nodup.getElem_inj_iff hnd).1 hmap).symm
    simp [hij, hne]

theorem toList_replaceByKey {xs : Array α} (hnd : (xs.toList.map key).Nodup) (x : α) :
    (replaceByKey key xs x).toList =
      if key x ∈ xs.toList.map key then xs.toList.map (fun y => if key y == key x then x else y)
      else xs.toList ++ [x] := by
  unfold replaceByKey
  split
  · rename_i i hi
    obtain ⟨hlt, hpi, -⟩ := Array.findIdx?_eq_some_iff_getElem.1 hi
    have hxi : key xs[i] = key x := by simpa using hpi
    have hmem : key x ∈ xs.toList.map key := List.mem_map.2 ⟨xs[i], Array.getElem_mem_toList hlt, hxi⟩
    rw [if_pos hmem, Array.toList_set!, set_eq_map_of_nodup key hnd (by simpa using hlt) (by simpa using hxi)]
  · rename_i hi
    have hnot : key x ∉ xs.toList.map key := by
      intro hmem
      obtain ⟨y, hy, hyx⟩ := List.mem_map.1 hmem
      have := Array.findIdx?_eq_none_iff.1 hi y (Array.mem_toList_iff.1 hy)
      simp [hyx] at this
    rw [if_neg hnot, Array.toList_push]

theorem replaceByKey_latest {xs : Array α} {l : List α} (h : xs.toList = latestByKey key l) (x : α) :
    (replaceByKey key xs x).toList = latestByKey key (l ++ [x]) := by
  have hnd : (xs.toList.map key).Nodup := h ▸ nodup_map_latestByKey key l
  rw [toList_replaceByKey key hnd, latestByKey_append_singleton, h, map_latestByKey]
  simp only [List.mem_eraseDups]

end Latest

/-! ## Settings since the last clearing -/

section Clearing

variable {α κ : Type} [BEq κ] [LawfulBEq κ]

/-- The settings (`some`) after the last clearing (`none`), in order. -/
def afterLastClear (evs : List (Option α)) : List α :=
  (evs.reverse.takeWhile Option.isSome).reverse.reduceOption

@[simp] theorem afterLastClear_nil : afterLastClear ([] : List (Option α)) = [] := rfl

theorem afterLastClear_append_some (evs : List (Option α)) (x : α) :
    afterLastClear (evs ++ [some x]) = afterLastClear evs ++ [x] := by
  simp [afterLastClear, List.reduceOption_append]

theorem afterLastClear_append_none (evs : List (Option α)) :
    afterLastClear (evs ++ [none]) = [] := by
  simp [afterLastClear]

/-- Settings and clearings replayed on an array, as the table's writers
make them. -/
def replay (key : α → κ) (xs : Array α) : List (Option α) → Array α
  | [] => xs
  | some x :: evs => replay key (replaceByKey key xs x) evs
  | none :: evs => replay key #[] evs

theorem replay_latest (key : α → κ) :
    ∀ (evs evs₀ : List (Option α)) (xs : Array α), xs.toList = latestByKey key (afterLastClear evs₀) →
      (replay key xs evs).toList = latestByKey key (afterLastClear (evs₀ ++ evs))
  | [], evs₀, xs, h => by simpa [replay] using h
  | some x :: evs, evs₀, xs, h => by
    have h₁ := replaceByKey_latest key h x
    rw [← afterLastClear_append_some] at h₁
    rw [replay, replay_latest key evs (evs₀ ++ [some x]) _ h₁, List.append_assoc, List.singleton_append]
  | none :: evs, evs₀, xs, h => by
    have h₁ : (#[] : Array α).toList = latestByKey key (afterLastClear (evs₀ ++ [none])) := by
      rw [afterLastClear_append_none]
      rfl
    rw [replay, replay_latest key evs (evs₀ ++ [none]) _ h₁, List.append_assoc, List.singleton_append]

end Clearing

/-! ## Calls on the table -/

/-- A call that edits the perturbation table. -/
inductive PerturbationCall where
  | setForce (item : Nat) (link : Option Int) (point force : Vec3) (duration : Float)
  | clearForces
  | setString (item : Nat) (link : Option Int) (attach goal : Vec3)
  | clearStrings
  | setForced (item : Nat) (pose : Mat4)
  | clearForced

variable {τ σ : Type}

/-- Makes a call on the simulator of a lab. -/
def Lab.applyCall (lab : Lab τ σ) : PerturbationCall → Lab τ σ
  | .setForce item link point force duration => lab.setExternalForce item link point force duration
  | .clearForces => lab.clearExternalForces
  | .setString item link attach goal => lab.setElasticString item link attach goal
  | .clearStrings => lab.clearElasticStrings
  | .setForced item pose => lab.setForcedPose item pose
  | .clearForced => lab.clearForcedPoses

/-- Makes calls in order. -/
def Lab.applyCalls (lab : Lab τ σ) (cs : List PerturbationCall) : Lab τ σ := cs.foldl Lab.applyCall lab

/-- What calls do to the forces: the force each setting stores, numbered on
from `seq` as the simulator numbers them, and `none` for each clearing. -/
def forceEvents : Nat → List PerturbationCall → List (Option ForceCommand)
  | _, [] => []
  | seq, .setForce item link point force duration :: cs =>
    some ⟨item, linkIndex link, seq + 1, point, force, duration⟩ :: forceEvents (seq + 1) cs
  | seq, .clearForces :: cs => none :: forceEvents seq cs
  | seq, _ :: cs => forceEvents seq cs

/-- What calls do to the strings. -/
def stringEvents : List PerturbationCall → List (Option StringCommand)
  | [] => []
  | .setString item link attach goal :: cs => some ⟨item, linkIndex link, attach, goal⟩ :: stringEvents cs
  | .clearStrings :: cs => none :: stringEvents cs
  | _ :: cs => stringEvents cs

/-- What calls do to the forced poses. -/
def forcedEvents : List PerturbationCall → List (Option ForcedPose)
  | [] => []
  | .setForced item pose :: cs => some ⟨item, pose⟩ :: forcedEvents cs
  | .clearForced :: cs => none :: forcedEvents cs
  | _ :: cs => forcedEvents cs

theorem applyCall_eq (lab : Lab τ σ) (c : PerturbationCall) :
    lab.applyCall c = { lab with sim := { lab.sim with perturb := (lab.applyCall c).sim.perturb,
                                                       pertSeq := (lab.applyCall c).sim.pertSeq } } := by
  cases c <;> rfl

theorem applyCalls_eq (cs : List PerturbationCall) (lab : Lab τ σ) :
    lab.applyCalls cs = { lab with sim := { lab.sim with perturb := (lab.applyCalls cs).sim.perturb,
                                                         pertSeq := (lab.applyCalls cs).sim.pertSeq } } := by
  induction cs generalizing lab with
  | nil => rfl
  | cons c cs ih =>
    rw [Lab.applyCalls, List.foldl_cons, ← Lab.applyCalls, ih, applyCall_eq lab c]

theorem applyCalls_perturb (cs : List PerturbationCall) (lab : Lab τ σ) :
    (lab.applyCalls cs).sim.perturb =
      { forces := replay ForceCommand.key lab.sim.perturb.forces (forceEvents lab.sim.pertSeq cs),
        strings := replay StringCommand.key lab.sim.perturb.strings (stringEvents cs),
        forced := replay ForcedPose.item lab.sim.perturb.forced (forcedEvents cs) } := by
  induction cs generalizing lab with
  | nil => rfl
  | cons c cs ih =>
    rw [Lab.applyCalls, List.foldl_cons, ← Lab.applyCalls, ih]
    -- one case per call: it edits one array and is no event of the others
    cases c <;>
      simp [Lab.applyCall, Lab.setExternalForce, Lab.clearExternalForces, Lab.setElasticString,
        Lab.clearElasticStrings, Lab.setForcedPose, Lab.clearForcedPoses, Lab.modifySim,
        Perturbations.withForce, Perturbations.withString, Perturbations.withForced,
        forceEvents, stringEvents, forcedEvents, replay]

theorem isForced_iff (p : Perturbations) (l : List ForcedPose) (h : p.forced.toList = latestByKey ForcedPose.item l)
    (item : Nat) : p.isForced item = true ↔ ∃ pose, ⟨item, pose⟩ ∈ l := by
  have hkeys := map_latestByKey ForcedPose.item l
  rw [← h] at hkeys
  constructor
  · intro hf
    obtain ⟨fp, hfp, hi⟩ := Array.any_eq_true'.1 hf
    have : item ∈ (l.map ForcedPose.item).eraseDups := by
      rw [← hkeys]
      exact List.mem_map.2 ⟨fp, Array.mem_toList_iff.2 hfp, by simpa using hi⟩
    obtain ⟨⟨i, pose⟩, hmem, rfl⟩ := List.mem_map.1 (List.mem_eraseDups.1 this)
    exact ⟨pose, hmem⟩
  · rintro ⟨pose, hmem⟩
    have : item ∈ p.forced.toList.map ForcedPose.item := by
      rw [hkeys, List.mem_eraseDups]
      exact List.mem_map.2 ⟨⟨item, pose⟩, hmem, rfl⟩
    obtain ⟨fp, hfp, hi⟩ := List.mem_map.1 this
    exact Array.any_eq_true'.2 ⟨fp, Array.mem_toList_iff.1 hfp, by simp [hi]⟩

/-- From an empty table, after any calls, each array holds one entry per
key, in the order the keys were first set since the last clearing of its
kind, each the last one set (forces with the numbers their setting calls
gave them); an item's pose is forced exactly when a pose for it was set
since the forced poses were last cleared; and the calls changed nothing but
the table and the force counter. -/
theorem table_after_calls (lab : Lab τ σ) (hempty : lab.sim.perturb = {}) (cs : List PerturbationCall) :
    lab.applyCalls cs = { lab with sim := { lab.sim with perturb := (lab.applyCalls cs).sim.perturb,
                                                         pertSeq := (lab.applyCalls cs).sim.pertSeq } } ∧
    (lab.applyCalls cs).sim.perturb.forces.toList =
        latestByKey ForceCommand.key (afterLastClear (forceEvents lab.sim.pertSeq cs)) ∧
      (lab.applyCalls cs).sim.perturb.strings.toList =
        latestByKey StringCommand.key (afterLastClear (stringEvents cs)) ∧
      (lab.applyCalls cs).sim.perturb.forced.toList =
        latestByKey ForcedPose.item (afterLastClear (forcedEvents cs)) ∧
      ∀ item, (lab.applyCalls cs).sim.perturb.isForced item = true ↔
        ∃ pose, ⟨item, pose⟩ ∈ afterLastClear (forcedEvents cs) := by
  refine ⟨applyCalls_eq cs lab, ?_⟩
  rw [applyCalls_perturb, hempty]
  have hf := replay_latest ForceCommand.key (forceEvents lab.sim.pertSeq cs) [] #[] rfl
  have hs := replay_latest StringCommand.key (stringEvents cs) [] #[] rfl
  have hp := replay_latest ForcedPose.item (forcedEvents cs) [] #[] rfl
  rw [List.nil_append] at hf hs hp
  exact ⟨hf, hs, hp, isForced_iff _ _ hp⟩

/-- An idle simulator with nothing in its world. -/
def tableLab : Lab Unit Unit where
  assembly := {}
  items := #[]
  controllers := #[]
  world := { name := "world" }
  sim := Simulator.create none {}
  session := ()

/-- A force on the root of item 0 set twice around one on its link 1, and a
pose forced, the poses cleared, and another item's pose forced. -/
def tableCalls : List PerturbationCall :=
  [.setForce 0 none Vec3.unitZ Vec3.unitZ 0.0, .setForce 0 (some 1) Vec3.zero Vec3.unitZ 0.0,
   .setForce 0 (some 0) Vec3.zero Vec3.unitZ 0.5, .setForced 0 Mat4.ident, .clearForced,
   .setString 1 none Vec3.zero Vec3.unitZ, .setForced 1 Mat4.ident]

theorem table_after_calls_tableCalls :
    tableLab.sim.perturb = {} ∧
      (tableLab.applyCalls tableCalls =
          { tableLab with sim := { tableLab.sim with perturb := (tableLab.applyCalls tableCalls).sim.perturb,
                                                     pertSeq := (tableLab.applyCalls tableCalls).sim.pertSeq } } ∧
        (tableLab.applyCalls tableCalls).sim.perturb.forces.toList =
          latestByKey ForceCommand.key (afterLastClear (forceEvents tableLab.sim.pertSeq tableCalls)) ∧
        (tableLab.applyCalls tableCalls).sim.perturb.strings.toList =
          latestByKey StringCommand.key (afterLastClear (stringEvents tableCalls)) ∧
        (tableLab.applyCalls tableCalls).sim.perturb.forced.toList =
          latestByKey ForcedPose.item (afterLastClear (forcedEvents tableCalls)) ∧
        ∀ item, (tableLab.applyCalls tableCalls).sim.perturb.isForced item = true ↔
          ∃ pose, ⟨item, pose⟩ ∈ afterLastClear (forcedEvents tableCalls)) :=
  ⟨rfl, table_after_calls tableLab rfl tableCalls⟩

/-- The root's force keeps its place and the number of its last setting. -/
example : ((tableLab.applyCalls tableCalls).sim.perturb.forces.toList.map fun f => (f.key, f.seq)) =
    [((0, 0), 3), ((0, 1), 2)] := by decide +kernel

end Multibody.Sim
