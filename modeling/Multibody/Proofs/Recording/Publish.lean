import Multibody.Proofs.Recording.Records

/-!
# Publication, read on the records

The end of a step, a flush and the end of a run act on the records alone
(`records_completeStep`, `records_flush`, `records_teardown`).  With
`step_cases`, a property of the records kept by flushing and by advancing a
frame holds after the loop, whatever the handlers and the flush schedule
(`loop_records_induction`).
-/

namespace Multibody.Sim

variable {τ σ : Type}

/-! ## Publication on the records -/

/-- Frames published to an item: the newest becomes its state, a recording
run appends them all and keeps the newest `capacity` when that is positive,
and each listener, in increasing order, is told the newest. -/
def ItemRecords.publish (ir : ItemRecords) (fs : List Int) (record : Bool) : ItemRecords :=
  match fs.getLast? with
  | none => ir
  | some last =>
    { ir with
      state := some last
      recording :=
        if !record then ir.recording
        else if ir.capacity ≤ 0 then ir.recording ++ fs
        else (ir.recording ++ fs).rtake ir.capacity.toNat
      notices := ir.notices ++ (ir.listeners.toList.mergeSort (· ≤ ·)).map fun l => (l, last) }

/-- A body's records with one more frame buffered. -/
def BodyRecords.push (b : BodyRecords) (f : Int) : BodyRecords :=
  { b with buffer := window b.capacity (b.buffer ++ [f]) }

namespace Records

/-- The frame advances and every body of the run buffers it. -/
def advanceFrame (R : Records) : Records :=
  { R with run := R.run.map fun rr =>
      { rr with frame := rr.frame + 1, bodies := rr.bodies.map (·.push (rr.frame + 1)) } }

/-- The `k`-th body of a run publishes its buffer to its item and empties it,
counting the frames published and keeping the newest. -/
def flushBody (rr : RunRecords) (acc : Records × Nat × Int) (k : Nat) : Records × Nat × Int :=
  match rr.bodies[k]? with
  | none => acc
  | some b =>
    match b.buffer.getLast? with
    | none => acc
    | some f =>
      ({ acc.1 with
         items := acc.1.items.modify b.item (·.publish b.buffer rr.record)
         run := acc.1.run.map fun r => { r with bodies := r.bodies.modify k ({ · with buffer := [] }) } },
       acc.2.1 + b.buffer.length, if f > acc.2.2 then f else acc.2.2)

/-- Every body publishes its buffer; when some frame was published the
newest is the simulation frame. -/
def flush (R : Records) : Records :=
  match R.run with
  | none => R
  | some rr =>
    match (List.range rr.bodies.length).foldl (flushBody rr) (R, 0, -1) with
    | (R, total, last) => if total = 0 then R else { R with simFrame := last }

/-- The run is dropped and its frame is the last frame. -/
def finish (R : Records) : Records :=
  { R with run := none, lastFrame := (R.run.map (·.frame)).getD 0 }

end Records

/-! ## The operations of a lab, read on its records -/

theorem BodyItem.records_publish (bi : BodyItem) (frames : Array Snapshot) (record : Bool) :
    (bi.publish frames record).records = bi.records.publish (frames.toList.map (·.frame)) record := by
  unfold BodyItem.publish ItemRecords.publish
  rw [List.getLast?_map, Array.getLast?_toList]
  cases frames.back? with
  | none => rfl
  | some last =>
    cases record with
    | false => simp [BodyItem.records]
    | true =>
      simp [BodyItem.records, Recording.frames_append]
      split <;> simp [*, map_rtake]

theorem SimBody.records_pushResult (sb : SimBody) (snap : Snapshot) :
    (sb.pushResult snap).records = sb.records.push snap.frame := by
  have hb := congrArg (List.map (·.frame)) (buffer_pushResult sb snap)
  rw [map_window, List.map_append, List.map_singleton] at hb
  simp only [SimBody.records, BodyRecords.push, hb]
  rfl

theorem modify_mapIdx_lt {α : Type} (g : α → α) (l : List α) (m : Nat) :
    (l.mapIdx fun k a => if k < m then g a else a).modify m g =
      l.mapIdx fun k a => if k < m + 1 then g a else a := by
  apply List.ext_getElem
  · simp
  · intro i h₁ h₂
    simp only [List.getElem_modify, List.getElem_mapIdx]
    rcases Nat.lt_trichotomy i m with h | rfl | h
    · simp [h, Nat.ne_of_gt h, Nat.lt_succ_of_lt h]
    · simp
    · simp [Nat.ne_of_lt h, Nat.not_lt_of_gt h, show ¬i < m + 1 by omega]

theorem mapIdx_self {α : Type} (l : List α) : (l.mapIdx fun _ a => a) = l := by
  apply List.ext_getElem <;> simp

theorem mapIdx_ite_of_length_le {α : Type} (g : α → α) (l : List α) {m : Nat} (h : l.length ≤ m) :
    (l.mapIdx fun k a => if k < m then g a else a) = l.map g := by
  apply List.ext_getElem
  · simp
  · intro i h₁ h₂
    simp only [List.getElem_mapIdx, List.getElem_map]
    rw [if_pos (by simp at h₁; omega)]

namespace Lab

variable (lab : Lab τ σ)

theorem records_bufferResults (k : Nat) (frame : Int) (t : Float) :
    (lab.bufferResults k frame t).records =
      { lab.records with run := lab.records.run.map fun rr =>
          { rr with bodies := rr.bodies.modify k (·.push frame) } } :=
  records_modifyBody_of _ _ fun sb => SimBody.records_pushResult sb _

theorem records_bufferAll :
    lab.bufferAll.records =
      { lab.records with run := lab.records.run.map fun rr =>
          { rr with bodies := rr.bodies.map (·.push rr.frame) } } := by
  unfold bufferAll
  cases hr : lab.sim.run with
  | none => simp [run, hr, records]
  | some r =>
    have hrun : lab.run = r := by simp [run, hr]
    rw [hrun]
    -- after the first `m` bodies, exactly those have buffered the frame
    have key : ∀ m, ((List.range m).foldl (fun lab k => lab.bufferResults k r.frame r.time) lab).records =
        { lab.records with run := lab.records.run.map fun rr =>
          { rr with bodies := rr.bodies.mapIdx fun k b => if k < m then b.push r.frame else b } } := by
      intro m
      induction m with
      | zero => simp [records, hr, Run.records, mapIdx_self]
      | succ m ih =>
        rw [List.range_succ, List.foldl_append, List.foldl_cons, List.foldl_nil, records_bufferResults, ih]
        simp [Function.comp_def, modify_mapIdx_lt]
    rw [key]
    simp [records, hr, Run.records, mapIdx_ite_of_length_le]

theorem records_flushBody (r : Run) (acc : Lab τ σ × Nat × Int) (k : Nat) :
    Records.flushBody r.records (acc.1.records, acc.2) k =
      ((flushBody r acc k).1.records, (flushBody r acc k).2) := by
  unfold flushBody Records.flushBody
  by_cases hk : k < r.bodies.size
  · have hget : r.records.bodies[k]? = some (r.bodies[k]).records := by simp [Run.records, hk]
    rw [hget, getElem!_pos r.bodies k hk]
    simp only [SimBody.records, List.getLast?_map, Array.getLast?_toList]
    cases (r.bodies[k]).buffer.back? with
    | none => rfl
    | some s =>
      simp only [Option.map_some]
      rw [@records_modifyBody_of _ _ _ k _ (fun b => { b with buffer := [] }) fun sb => rfl,
        @records_modifyItem_of _ _ _ _ _ (·.publish ((r.bodies[k]).buffer.toList.map (·.frame)) r.record)
          fun bi => BodyItem.records_publish bi _ _]
      simp [Run.records]
  · have hget : r.records.bodies[k]? = none := by simp [Run.records, hk]
    rw [hget, getElem!_neg r.bodies k hk]
    rfl

theorem records_flush : lab.flush.records = lab.records.flush := by
  unfold flush Records.flush
  cases hr : lab.sim.run with
  | none => simp [run, hr, records]
  | some r =>
    have hrun : lab.run = r := by simp [run, hr]
    have hR : lab.records.run = some r.records := by simp [records, hr]
    have hlen : r.records.bodies.length = r.bodies.size := by simp [Run.records]
    -- the fold over the bodies, read on the records
    have hfold : (List.range r.bodies.size).foldl (Records.flushBody r.records) (lab.records, 0, -1) =
        (((List.range r.bodies.size).foldl (flushBody r) (lab, 0, -1)).1.records,
         ((List.range r.bodies.size).foldl (flushBody r) (lab, 0, -1)).2) :=
      @List.foldl_hom _ _ _ (fun acc : Lab τ σ × Nat × Int => (acc.1.records, acc.2)) (flushBody r)
        (Records.flushBody r.records) _ (lab, 0, -1) fun acc k => records_flushBody r acc k
    rw [hrun, hR]
    dsimp only
    rw [hlen, hfold]
    obtain ⟨l, t, last⟩ := (List.range r.bodies.size).foldl (flushBody r) (lab, 0, -1)
    dsimp only
    by_cases ht : t = 0
    · simp [ht]
    · simp only [ht, ↓reduceIte]
      rfl

theorem records_completeStep (h : Handlers τ σ) :
    (lab.completeStep h).records = lab.records.advanceFrame.flush ∨
      (lab.completeStep h).records = lab.records.advanceFrame := by
  have hadv : ∀ c : Int, (((lab.modifyRun fun r => { r with frame := r.frame + 1 }).modifySim
      fun s => { s with currentFrame := c }).bufferAll).records = lab.records.advanceFrame := by
    intro c
    rw [records_bufferAll]
    cases hr : lab.sim.run <;> simp [records, modifyRun, modifySim, hr, Records.advanceFrame, Run.records]
  unfold completeStep
  dsimp only
  split
  · exact Or.inl (by rw [records_flush, records_measure, hadv])
  · exact Or.inr (by rw [records_measure, hadv])

theorem frame_records_run : (lab.records.run.map (·.frame)).getD 0 = lab.run.frame := by
  cases hr : lab.sim.run <;> simp [records, run, hr, Run.records]

section Handlers

variable {h : Handlers τ σ}

theorem records_holdRun (hh : h.KeepsRecords) : (lab.holdRun h).1.records = lab.records.flush := by
  unfold holdRun
  dsimp only
  split
  · rw [hh.2, records_flush]
  · rw [hh.2, hh.2, records_flush]

theorem records_teardown (hh : h.KeepsRecords) (fin : FinishInfo) :
    (lab.teardown h fin).records = lab.records.flush.finish := by
  unfold teardown
  dsimp only
  rw [hh.2, ← records_flush, ← frame_records_run]
  split <;> simp only [records_trace, records_measure, records_setState] <;> rfl

/-- A property of the records that flushing and advancing a frame keep holds
after the loop: the hooks and observers keep the records, and a step either
fails with its records or completes (`step_cases`). -/
theorem loop_records_induction (hh : h.KeepsRecords) {P : Records → Prop}
    (hflush : ∀ R, P R → P R.flush) (hadvance : ∀ R, P R → P R.advanceFrame) :
    ∀ (fuel : Nat) (lab : Lab τ σ), P lab.records → P (loop h fuel lab).1.records
  | 0, _, hP => hP
  | fuel + 1, lab, hP => by
    unfold loop
    split
    · exact hP
    split
    · -- a held run publishes its buffers, then goes on or ends
      have hhold := lab.records_holdRun hh
      split <;> rename_i lab' heq <;> rw [heq] at hhold
      · exact loop_records_induction hh hflush hadvance fuel lab' (hhold ▸ hflush _ hP)
      · exact hhold ▸ hflush _ hP
    · -- a step fails with the records it started with, or completes
      rcases lab.step_cases hh with ⟨hfail, hrec⟩ | ⟨mid, hmid, hstep⟩
      · split
        · rename_i lab' err heq
          rw [heq] at hrec
          exact hrec ▸ hP
        · rename_i lab' heq
          rw [heq] at hfail
          simp at hfail
      · rw [hstep]
        dsimp only
        have hc : P ((mid.completeStep h).measure (·.observeStep 0)).records := by
          rw [records_measure]
          rcases mid.records_completeStep h with hc | hc <;> rw [hc, hmid]
          · exact hflush _ (hadvance _ hP)
          · exact hadvance _ hP
        split
        · exact hc
        · exact loop_records_induction hh hflush hadvance fuel _ hc

/-- A run that starts: a property of the records holding after the setup
and kept by flushing and by advancing a frame holds of the records the run
ends with, which are then published and finished. -/
theorem start_records_induction (hh : h.KeepsRecords) {P : Records → Prop}
    (hflush : ∀ R, P R → P R.flush) (hadvance : ∀ R, P R → P R.advanceFrame)
    {fuel : Nat} {reset : Bool} (hs : (lab.start h fuel reset).2 = none)
    (hP : P (lab.setup reset).1.records) :
    ∃ R, P R ∧ (lab.start h fuel reset).1.records = R.flush.finish := by
  unfold start at hs ⊢
  by_cases hrun : lab.sim.run.isSome = true
  · rw [if_pos hrun] at hs
    simp at hs
  rw [if_neg hrun] at hs ⊢
  dsimp only at hs ⊢
  rcases hsetup : lab.setup reset with ⟨lab₁, _ | f⟩
  · rw [hsetup] at hP
    dsimp only
    refine ⟨_, loop_records_induction hh hflush hadvance fuel _ ?_, records_teardown _ hh _⟩
    rw [hh.2, records_setState, records_trace]
    split
    · rw [records_modifyRun]
      · exact hP
      · intro r
        rfl
    · exact hP
  · simp [hsetup] at hs

end Handlers

end Lab

end Multibody.Sim
