import Multibody.Proofs.Recording.Invariant
import Multibody.Proofs.Schedule.Erase

/-!
# What a lab would publish now

`Lab.pending` is what the items would show if every buffer were published
now, a function of the outbox alone (`pending_eq_of_outbox`) that publishing
keeps (`pending_flush`).  On a coherent run (`Lab.Coherent`) buffering a
snapshot publishes it onto what is pending (`publishTo_pushResult`,
`pending_bufferResults`).
-/

namespace Multibody.Sim

variable {τ σ : Type}

/-! ## Publishing onto a state and a recording -/

/-- What runs have published to an item: its state and its recording. -/
def BodyItem.published (bi : BodyItem) : Option Snapshot × Recording := (bi.state, bi.recording)

/-- Snapshots published onto a state and a recording: the newest becomes the
state, and a recording run appends them all. -/
def publishTo (p : Option Snapshot × Recording) (fs : Array Snapshot) (record : Bool) :
    Option Snapshot × Recording :=
  match fs.back? with
  | none => p
  | some last => (some last, if record then p.2.append fs else p.2)

theorem publishTo_of_back? {p : Option Snapshot × Recording} {fs : Array Snapshot} {last : Snapshot}
    (record : Bool) (h : fs.back? = some last) :
    publishTo p fs record = (some last, if record then p.2.append fs else p.2) := by
  simp only [publishTo, h]

theorem publishTo_of_back?_none (p : Option Snapshot × Recording) {fs : Array Snapshot} (record : Bool)
    (h : fs.back? = none) : publishTo p fs record = p := by
  simp only [publishTo, h]

@[simp] theorem publishTo_empty (p : Option Snapshot × Recording) (record : Bool) : publishTo p #[] record = p := rfl

theorem BodyItem.published_publish (bi : BodyItem) (fs : Array Snapshot) (record : Bool) :
    (bi.publish fs record).published = publishTo bi.published fs record := by
  cases hb : fs.back? with
  | none => simp only [BodyItem.publish, publishTo, hb]
  | some last =>
    rw [publishTo_of_back? record hb]
    simp only [BodyItem.publish, hb]
    cases record <;> rfl

namespace Recording

theorem ext_frames {r₁ r₂ : Recording} (hc : r₁.capacity = r₂.capacity)
    (hf : r₁.frames.toList = r₂.frames.toList) : r₁ = r₂ := by
  obtain ⟨c₁, f₁⟩ := r₁
  obtain ⟨c₂, f₂⟩ := r₂
  simp only [Array.toList_inj] at hc hf
  rw [hc, hf]

theorem append_append (r : Recording) (fs gs : Array Snapshot) :
    (r.append fs).append gs = r.append (fs ++ gs) := by
  refine ext_frames (by simp) ?_
  rw [frames_append, frames_append, frames_append, capacity_append]
  split
  · simp
  · rw [rtake_rtake_append, Array.toList_append, List.append_assoc]

theorem append_of_window (r : Recording) {fs gs : Array Snapshot} {c : Nat}
    (hw : fs.toList = window c gs.toList) (hc : c = 0 ∨ r.capacity = c) : r.append fs = r.append gs := by
  by_cases h0 : c = 0
  · rw [h0, window_zero, Array.toList_inj] at hw
    rw [hw]
  · have hcap : r.capacity = c := hc.resolve_left h0
    refine ext_frames (by simp) ?_
    have hpos : ¬ r.capacity ≤ 0 := by omega
    rw [frames_append, frames_append, hw, if_neg hpos, if_neg hpos, hcap, Int.toNat_natCast]
    unfold window
    rw [if_neg h0, rtake_append_rtake]

end Recording

theorem publishTo_pushResult (p : Option Snapshot × Recording) (sb : SimBody) (snap : Snapshot)
    {record : Bool} (hc : record = true → sb.capacity = 0 ∨ p.2.capacity = sb.capacity) :
    publishTo p (sb.pushResult snap).buffer record = publishTo (publishTo p sb.buffer record) #[snap] record := by
  have hbuf := SimBody.buffer_pushResult sb snap
  have hlast : (sb.pushResult snap).buffer.back? = some snap := by
    rw [← Array.getLast?_toList, hbuf, getLast?_window]
  rw [publishTo_of_back? record hlast]
  cases hb : sb.buffer.back? with
  | none =>
    -- nothing was buffered: the window holds the one snapshot
    have hnil : sb.buffer.toList = [] := by simpa using hb
    rw [publishTo_of_back?_none p record hb, @publishTo_of_back? _ _ snap record rfl]
    cases record with
    | false => rfl
    | true =>
      rw [hnil, List.nil_append] at hbuf
      simp only [↓reduceIte, @Recording.append_of_window p.2 _ #[snap] _ hbuf (hc rfl)]
  | some last =>
    rw [publishTo_of_back? record hb, @publishTo_of_back? _ _ snap record rfl]
    cases record with
    | false => rfl
    | true =>
      simp only [↓reduceIte, Recording.append_append]
      rw [@Recording.append_of_window p.2 _ (sb.buffer ++ #[snap]) _ (by simpa using hbuf) (hc rfl)]

/-! ## Changes at distinct positions -/

theorem Array.modify_eq_self {α : Type} {f : α → α} (hf : ∀ a, f a = a) (xs : Array α) (i : Nat) :
    xs.modify i f = xs := by
  apply Array.ext_getElem?
  intro j
  simp only [Array.getElem?_modify]
  split
  · cases xs[j]? <;> simp [hf]
  · rfl

theorem Array.map_modify {α β : Type} (g : α → β) {f : α → α} {f' : β → β} (hf : ∀ a, g (f a) = f' (g a))
    (xs : Array α) (i : Nat) : (xs.modify i f).map g = (xs.map g).modify i f' := by
  apply Array.ext_getElem?
  intro j
  simp only [Array.getElem?_map, Array.getElem?_modify]
  split
  · cases xs[j]? <;> simp [hf]
  · rfl

theorem SimBody.outbox_getElem! {bs₁ bs₂ : Array SimBody} (h : bs₁.map SimBody.outbox = bs₂.map SimBody.outbox)
    (k : Nat) : bs₁[k]!.outbox = bs₂[k]!.outbox := by
  have hk := congrArg (·[k]?) h
  simp only [Array.getElem?_map] at hk
  simp only [Array.getElem!_eq_getD, Array.getD_eq_getD_getElem?]
  cases h₁ : bs₁[k]? <;> cases h₂ : bs₂[k]? <;> simp_all

section Distinct

variable {α : Type} (key : Nat → Nat) (g : Nat → α → α) (a : Array α)

theorem getElem?_foldl_modify_of_ne {i : Nat} :
    ∀ n, (∀ j < n, key j ≠ i) → ((List.range n).foldl (fun a k => a.modify (key k) (g k)) a)[i]? = a[i]?
  | 0, _ => rfl
  | n + 1, hne => by
    rw [List.range_succ, List.foldl_append, List.foldl_cons, List.foldl_nil, Array.getElem?_modify,
      if_neg (hne n (Nat.lt_succ_self n)),
      getElem?_foldl_modify_of_ne n fun j hj => hne j (Nat.lt_succ_of_lt hj)]

theorem getElem?_foldl_modify :
    ∀ n, (∀ j < n, ∀ j' < n, key j = key j' → j = j') → ∀ j < n,
      ((List.range n).foldl (fun a k => a.modify (key k) (g k)) a)[key j]? = a[key j]?.map (g j)
  | 0, _, _, hj => absurd hj (Nat.not_lt_zero _)
  | n + 1, hinj, j, hj => by
    rw [List.range_succ, List.foldl_append, List.foldl_cons, List.foldl_nil, Array.getElem?_modify]
    have hinj' : ∀ j < n, ∀ j' < n, key j = key j' → j = j' := fun j hj j' hj' =>
      hinj j (Nat.lt_succ_of_lt hj) j' (Nat.lt_succ_of_lt hj')
    rcases Nat.lt_succ_iff_lt_or_eq.1 hj with hj | rfl
    · -- an earlier step: the last one changes another position
      have hne : key n ≠ key j := fun h => absurd (hinj n (Nat.lt_succ_self n) j (Nat.lt_succ_of_lt hj) h) (by omega)
      rw [if_neg hne, getElem?_foldl_modify n hinj' j hj]
    · -- the last step: no earlier one changed its position
      have hne : ∀ j' < j, key j' ≠ key j := fun j' hj' h =>
        absurd (hinj j' (Nat.lt_succ_of_lt hj') j (Nat.lt_succ_self j) h) (by omega)
      rw [if_pos rfl, getElem?_foldl_modify_of_ne key g a j hne]

end Distinct

/-! ## The view of a flush -/

/-- What a lab would publish now: the items' states and recordings once
every buffer is published. -/
def Lab.pending (lab : Lab τ σ) : Array (Option Snapshot × Recording) := lab.flush.items.map BodyItem.published

namespace Lab

variable (lab : Lab τ σ)

theorem run_modifyBody (k : Nat) (f : SimBody → SimBody) :
    (lab.modifyBody k f).run = { lab.run with bodies := lab.run.bodies.modify k f } := by
  cases hr : lab.sim.run <;> simp [run, modifyBody, modifyRun, modifySim, hr]

theorem items_flushBody (r : Run) (acc : Lab τ σ × Nat × Int) (k : Nat) :
    (flushBody r acc k).1.items = acc.1.items.modify r.bodies[k]!.item (·.publish r.bodies[k]!.buffer r.record) := by
  unfold flushBody
  dsimp only
  split
  · rename_i hb
    refine (Array.modify_eq_self (fun bi => ?_) _ _).symm
    simp only [BodyItem.publish, hb]
  · rfl

/-- The step of a flush on the run: the `k`-th buffer is emptied, when it
held something. -/
def clearBody (r : Run) (k : Nat) (sb : SimBody) : SimBody :=
  if r.bodies[k]!.buffer.back?.isNone then sb else { sb with buffer := #[] }

theorem run_flushBody (r : Run) (acc : Lab τ σ × Nat × Int) (k : Nat) :
    (flushBody r acc k).1.run = { acc.1.run with bodies := acc.1.run.bodies.modify k (clearBody r k) } := by
  unfold flushBody
  dsimp only
  split
  · rename_i hb
    rw [Array.modify_eq_self (fun sb => by simp [clearBody, hb])]
  · rename_i hb
    have hclear : clearBody r k = fun sb => { sb with buffer := #[] } := by
      funext sb
      simp [clearBody, hb]
    rw [run_modifyBody, hclear]
    rfl

theorem items_flush :
    lab.flush.items = (List.range lab.run.bodies.size).foldl
      (fun items k => items.modify lab.run.bodies[k]!.item (·.publish lab.run.bodies[k]!.buffer lab.run.record))
      lab.items := by
  have hfold := @List.foldl_hom _ _ _ (fun acc : Lab τ σ × Nat × Int => acc.1.items) (flushBody lab.run)
    (fun items k => items.modify lab.run.bodies[k]!.item (·.publish lab.run.bodies[k]!.buffer lab.run.record))
    (List.range lab.run.bodies.size) (lab, 0, -1) fun acc k => (items_flushBody lab.run acc k).symm
  unfold flush
  dsimp only at hfold ⊢
  -- name the fold's result, so that each branch reads its items directly
  rcases hf : (List.range lab.run.bodies.size).foldl (flushBody lab.run) (lab, 0, -1) with ⟨l, total, last⟩
  rw [hf] at hfold
  dsimp only at hfold ⊢
  rw [hfold]
  split <;> rfl

theorem run_flush : lab.flush.run = { lab.run with bodies := lab.run.bodies.map fun sb => { sb with buffer := #[] } } := by
  -- the fold, read on the run, then on its bodies
  have hfold := @List.foldl_hom _ _ _ (fun acc : Lab τ σ × Nat × Int => acc.1.run) (flushBody lab.run)
    (fun r k => { r with bodies := r.bodies.modify k (clearBody lab.run k) })
    (List.range lab.run.bodies.size) (lab, 0, -1) fun acc k => (run_flushBody lab.run acc k).symm
  have hbodies := @List.foldl_hom _ _ _ (fun bs : Array SimBody => { lab.run with bodies := bs })
    (fun bs k => bs.modify k (clearBody lab.run k)) (fun r k => { r with bodies := r.bodies.modify k (clearBody lab.run k) })
    (List.range lab.run.bodies.size) lab.run.bodies fun _ _ => rfl
  have hrun : lab.flush.run = ((List.range lab.run.bodies.size).foldl (flushBody lab.run) (lab, 0, -1)).1.run := by
    unfold flush
    dsimp only
    rcases (List.range lab.run.bodies.size).foldl (flushBody lab.run) (lab, 0, -1) with ⟨l, total, last⟩
    split <;> rfl
  rw [hrun, ← hfold]
  dsimp only at hbodies ⊢
  rw [hbodies]
  congr 1
  -- each body is emptied once
  apply Array.ext_getElem?
  intro j
  by_cases hj : j < lab.run.bodies.size
  · rw [getElem?_foldl_modify (fun k => k) _ _ _ (fun _ _ _ _ h => h) j hj, Array.getElem?_map,
      Array.getElem?_eq_getElem hj, Option.map_some, Option.map_some]
    simp only [clearBody, getElem!_pos lab.run.bodies j hj]
    split
    · rename_i hb
      have hnil : lab.run.bodies[j].buffer = #[] := by simpa using hb
      rw [← hnil]
    · rfl
  · rw [@getElem?_foldl_modify_of_ne SimBody (fun k => k) (clearBody lab.run) lab.run.bodies j
      lab.run.bodies.size fun j' hj' h => hj (h ▸ hj'), Array.getElem?_map]
    simp [Array.getElem?_eq_none (Nat.le_of_not_lt hj)]

theorem pending_eq :
    lab.pending = (List.range lab.run.bodies.size).foldl
      (fun ps k => ps.modify lab.run.bodies[k]!.item (publishTo · lab.run.bodies[k]!.buffer lab.run.record))
      (lab.items.map BodyItem.published) := by
  rw [pending, items_flush]
  exact (List.foldl_hom (fun items : Array BodyItem => items.map BodyItem.published)
    fun items k => (Array.map_modify _ (fun bi => BodyItem.published_publish bi _ _) items _).symm).symm

theorem outbox_run_eq {lab₁ lab₂ : Lab τ σ} (h : lab₁.outbox = lab₂.outbox) : lab₁.run.outbox = lab₂.run.outbox := by
  have hrun : lab₁.sim.run.map Run.outbox = lab₂.sim.run.map Run.outbox := congrArg Outbox.run h
  cases h₁ : lab₁.sim.run <;> cases h₂ : lab₂.sim.run <;>
    simp only [h₁, h₂, Option.map_none, Option.map_some, Option.some.injEq, reduceCtorEq] at hrun <;>
    simp [run, h₁, h₂, hrun]

theorem pending_eq_of_outbox {lab₁ lab₂ : Lab τ σ} (h : lab₁.outbox = lab₂.outbox) :
    lab₁.pending = lab₂.pending := by
  have hitems : lab₁.items = lab₂.items := congrArg Outbox.items h
  have hrun := outbox_run_eq h
  have hrec : lab₁.run.record = lab₂.run.record := congrArg (·.2.1) hrun
  have hbodies : lab₁.run.bodies.map SimBody.outbox = lab₂.run.bodies.map SimBody.outbox := congrArg (·.2.2) hrun
  have hsize : lab₁.run.bodies.size = lab₂.run.bodies.size := by
    simpa using congrArg Array.size hbodies
  rw [pending_eq, pending_eq, hitems, hrec, hsize]
  congr 1
  funext ps k
  have hk := SimBody.outbox_getElem! hbodies k
  simp only [SimBody.outbox, Prod.mk.injEq] at hk
  rw [hk.1, hk.2.1]

theorem pending_flush : lab.flush.pending = lab.pending := by
  rw [pending_eq lab.flush, run_flush]
  refine (foldl_keeps id _ (fun ps k => ?_) _ _).trans ?_
  · simp only [id, Array.getElem!_eq_getD, Array.getD_eq_getD_getElem?, Array.getElem?_map]
    cases lab.run.bodies[k]? <;> exact Array.modify_eq_self (fun _ => rfl) _ _
  · rfl

end Lab

/-! ## Buffering publishes onto what is pending -/

/-- A run whose buffers can be published late: its bodies feed distinct
items, and a recording run gives every buffer the window of the recording it
feeds, or none. -/
structure Lab.Coherent (lab : Lab τ σ) : Prop where
  distinct : ∀ j < lab.run.bodies.size, ∀ j' < lab.run.bodies.size,
    lab.run.bodies[j]!.item = lab.run.bodies[j']!.item → j = j'
  window : lab.run.record = true → ∀ j < lab.run.bodies.size, ∀ bi ∈ lab.items[lab.run.bodies[j]!.item]?,
    lab.run.bodies[j]!.capacity = 0 ∨ bi.recording.capacity = lab.run.bodies[j]!.capacity

/-- The snapshot of the `k`-th body that `bufferResults` buffers. -/
def Lab.bufferedSnapshot (lab : Lab τ σ) (k : Nat) (frame : Int) (time : Float) : Snapshot :=
  let r := lab.run
  let sb := r.bodies.getD k default
  let opts := { r.opts with changedDevices := sb.changedDevices }
  { (lab.assembly.takeSnapshot sb.body {} opts).toOption.getD {} with frame := frame, time := time }

namespace Lab

variable (lab : Lab τ σ)

theorem bufferResults_eq (k : Nat) (frame : Int) (time : Float) :
    lab.bufferResults k frame time = lab.modifyBody k (·.pushResult (lab.bufferedSnapshot k frame time)) := rfl

theorem bufferedSnapshot_erase (k : Nat) (frame : Int) (time : Float) :
    lab.erase.bufferedSnapshot k frame time = lab.bufferedSnapshot k frame time := by
  simp only [bufferedSnapshot, run_erase, Run.getD_bodies_erase, Run.opts_erase, SimBody.changedDevices_erase,
    SimBody.body_erase, assembly_erase]

theorem modifyBody_of_le (k : Nat) (f : SimBody → SimBody) (hk : lab.run.bodies.size ≤ k) :
    lab.modifyBody k f = lab := by
  have hself : ∀ r : Run, r.bodies.size ≤ k → r.bodies.modify k f = r.bodies := fun r hr => by
    apply Array.ext_getElem?
    intro j
    rw [Array.getElem?_modify]
    split
    · rename_i hj
      subst hj
      simp [Array.getElem?_eq_none hr]
    · rfl
  have hmap : lab.sim.run.map (fun r => { r with bodies := r.bodies.modify k f }) = lab.sim.run := by
    cases hr : lab.sim.run with
    | none => rfl
    | some r =>
      have hk' : r.bodies.size ≤ k := by simpa [run, hr] using hk
      simp [hself r hk']
  simp only [modifyBody, modifyRun, modifySim, hmap]

theorem run_modifyRun_of {f : Run → Run} (hb : ∀ r, (f r).bodies = r.bodies) (hr : ∀ r, (f r).record = r.record) :
    (lab.modifyRun f).run.bodies = lab.run.bodies ∧ (lab.modifyRun f).run.record = lab.run.record := by
  cases h : lab.sim.run <;> simp [run, modifyRun, modifySim, h, hb, hr]

theorem pending_modifyRun {f : Run → Run} (hb : ∀ r, (f r).bodies = r.bodies) (hr : ∀ r, (f r).record = r.record) :
    (lab.modifyRun f).pending = lab.pending := by
  obtain ⟨hbodies, hrec⟩ := lab.run_modifyRun_of hb hr
  rw [pending_eq, pending_eq, hbodies, hrec]
  rfl

theorem coherent_modifyRun {f : Run → Run} (hb : ∀ r, (f r).bodies = r.bodies) (hr : ∀ r, (f r).record = r.record)
    (hc : lab.Coherent) : (lab.modifyRun f).Coherent := by
  obtain ⟨hbodies, hrec⟩ := lab.run_modifyRun_of hb hr
  refine ⟨?_, ?_⟩
  · rw [hbodies]
    exact hc.distinct
  · rw [hbodies, hrec]
    exact hc.window

theorem pending_of_run_none (h : lab.sim.run = none) : lab.pending = lab.items.map BodyItem.published := by
  have hsize : lab.run.bodies.size = 0 := by simp [run, h]
  rw [pending_eq, hsize]
  rfl

theorem getElem!_modify_keeps {α β : Type} [Inhabited α] (g : α → β) {f : α → α} (hf : ∀ a, g (f a) = g a)
    (xs : Array α) (k j : Nat) : g (xs.modify k f)[j]! = g xs[j]! := by
  simp only [Array.getElem!_eq_getD, Array.getD_eq_getD_getElem?, Array.getElem?_modify]
  split
  · cases xs[j]? <;> simp [hf]
  · rfl

theorem coherent_modifyBody (k : Nat) {f : SimBody → SimBody} (hitem : ∀ sb, (f sb).item = sb.item)
    (hcap : ∀ sb, (f sb).capacity = sb.capacity) (hc : lab.Coherent) : (lab.modifyBody k f).Coherent := by
  have hi := getElem!_modify_keeps SimBody.item hitem lab.run.bodies k
  have hk := getElem!_modify_keeps SimBody.capacity hcap lab.run.bodies k
  refine ⟨fun j hj j' hj' h => ?_, fun hrec j hj bi hbi => ?_⟩
  · rw [run_modifyBody] at hj hj' h
    simp only [Array.size_modify, hi] at hj hj' h
    exact hc.distinct j hj j' hj' h
  · rw [run_modifyBody] at hrec hj hbi ⊢
    simp only [Array.size_modify, hi, hk] at hrec hj hbi ⊢
    exact hc.window hrec j hj bi hbi

theorem coherent_bufferResults (hc : lab.Coherent) (k : Nat) (frame : Int) (time : Float) :
    (lab.bufferResults k frame time).Coherent := by
  rw [bufferResults_eq]
  exact lab.coherent_modifyBody k (fun _ => rfl) (fun _ => rfl) hc

theorem Coherent.of_eq {lab₁ lab₂ : Lab τ σ} (hr : lab₂.run = lab₁.run) (hi : lab₂.items = lab₁.items)
    (hc : lab₁.Coherent) : lab₂.Coherent :=
  ⟨by rw [hr]; exact hc.distinct, by rw [hr, hi]; exact hc.window⟩

/-- A run that publishes as `Records.Publishing` says keeps its buffers
coherent with what they feed: its items are distinct, and a recording run
buffers in the recordings' window (`tailFrames` in tail mode) or without
one. -/
theorem coherent_of_publishing {S : RunStart} {last : Int} (hp : lab.records.Publishing S last) :
    lab.Coherent := by
  obtain ⟨rr, hr, hb⟩ := hp.run
  obtain ⟨r, hsim, rfl⟩ : ∃ r, lab.sim.run = some r ∧ r.records = rr := by
    cases h : lab.sim.run with
    | none => simp [records, h] at hr
    | some r => exact ⟨r, rfl, by simpa [records, h] using hr⟩
  have hrun : lab.run = r := by simp [run, hsim]
  have hitems : r.bodies.toList.map (·.item) = S.items := by
    simpa [Run.records, SimBody.records, Function.comp_def] using hb.items
  have hlen : (r.bodies.toList.map (·.item)).length = r.bodies.size := by simp
  refine ⟨fun j hj j' hj' h => ?_, fun hrec j hj bi hbi => ?_⟩
  · -- distinct items: the run's items are those of the start, each once
    rw [hrun] at hj hj' h
    have hget : (r.bodies.toList.map (·.item))[j]! = (r.bodies.toList.map (·.item))[j']! := by
      rw [getElem!_pos _ j (hlen ▸ hj), getElem!_pos _ j' (hlen ▸ hj')]
      simpa [getElem!_pos r.bodies j hj, getElem!_pos r.bodies j' hj'] using h
    exact (List.getElem!_inj (hlen ▸ hj) (hlen ▸ hj') (hitems ▸ S.nodup)).1 hget
  · -- the window: the configured buffer capacity against the recordings' capacity
    rw [hrun] at hrec hj hbi ⊢
    rw [getElem!_pos r.bodies j hj] at hbi ⊢
    have hon : (S.cfg.recording != .off) = true := hb.record ▸ hrec
    have hcap : r.bodies[j].capacity = S.cfg.bufferCapacity :=
      hb.capacity _ (List.mem_map.2 ⟨_, Array.getElem_mem_toList hj, rfl⟩)
    have hmem : r.bodies[j].item ∈ S.items := hitems ▸ List.mem_map.2 ⟨_, Array.getElem_mem_toList hj, rfl⟩
    have hlt : r.bodies[j].item < lab.items.size := (Array.getElem?_eq_some_iff.1 hbi).1
    have hrec' : bi.recording.capacity = S.cfg.recordingCapacity := by
      have := (hp.published _ hmem).capacity
      simpa [records, hlt, (Array.getElem?_eq_some_iff.1 hbi).2, BodyItem.records] using this
    rw [hcap, hrec', Config.recordingCapacity_eq]
    unfold Config.bufferCapacity
    cases hm : S.cfg.recording with
    | tail =>
      have := S.tail_pos hm
      exact Or.inr (by simp only; omega)
    | off =>
      rw [hm] at hon
      exact absurd hon (by decide)
    | full => exact Or.inl rfl
    | other c => exact Or.inl rfl

theorem pending_modifyBody_pushResult (hc : lab.Coherent) {k : Nat} (hk : k < lab.run.bodies.size)
    (snap : Snapshot) :
    (lab.modifyBody k fun sb => sb.pushResult snap).pending =
      lab.pending.modify lab.run.bodies[k]!.item (publishTo · #[snap] lab.run.record) := by
  have hitem : ∀ j : Nat, (lab.run.bodies.modify k fun sb : SimBody => sb.pushResult snap)[j]!.item =
      lab.run.bodies[j]!.item :=
    @getElem!_modify_keeps _ _ _ SimBody.item (fun sb => sb.pushResult snap) (fun _ => rfl) lab.run.bodies k
  have hbuf : ∀ j : Nat, j ≠ k → (lab.run.bodies.modify k fun sb : SimBody => sb.pushResult snap)[j]!.buffer =
      lab.run.bodies[j]!.buffer := by
    intro j hj
    simp only [Array.getElem!_eq_getD, Array.getD_eq_getD_getElem?, Array.getElem?_modify, Ne.symm hj, ↓reduceIte]
  have hbufk : (lab.run.bodies.modify k fun sb : SimBody => sb.pushResult snap)[k]!.buffer =
      (lab.run.bodies[k]!.pushResult snap).buffer := by
    simp only [Array.getElem!_eq_getD, Array.getD_eq_getD_getElem?, Array.getElem?_modify, ↓reduceIte,
      Array.getElem?_eq_getElem hk, Option.map_some, Option.getD_some]
  have hinj := hc.distinct
  rw [pending_eq, pending_eq, run_modifyBody]
  dsimp only
  simp only [Array.size_modify, hitem]
  have hitems : (lab.modifyBody k fun sb => sb.pushResult snap).items = lab.items := rfl
  rw [hitems]
  apply Array.ext_getElem?
  intro i
  rw [Array.getElem?_modify]
  by_cases hi : ∃ j < lab.run.bodies.size, lab.run.bodies[j]!.item = i
  · obtain ⟨j, hj, rfl⟩ := hi
    rw [getElem?_foldl_modify (fun j => lab.run.bodies[j]!.item) _ _ _ hinj j hj,
      getElem?_foldl_modify (fun j => lab.run.bodies[j]!.item) _ _ _ hinj j hj]
    by_cases hjk : j = k
    · -- the body that buffered: its item takes the snapshot after the rest
      subst hjk
      rw [if_pos rfl, hbufk, Option.map_map]
      rcases hbi : lab.items[lab.run.bodies[j]!.item]? with _ | bi
      · simp [Array.getElem?_map, hbi]
      · simp only [Array.getElem?_map, hbi, Option.map_some, Function.comp_apply]
        congr 1
        exact publishTo_pushResult _ _ _ fun hrec => hc.window hrec j hj bi hbi
    · rw [if_neg fun h => hjk (hinj k hk j hj h).symm, hbuf j hjk]
  · push Not at hi
    rw [getElem?_foldl_modify_of_ne (fun j => lab.run.bodies[j]!.item) _ _ _ hi,
      getElem?_foldl_modify_of_ne (fun j => lab.run.bodies[j]!.item) _ _ _ hi, if_neg (hi k hk)]

end Lab

end Multibody.Sim
