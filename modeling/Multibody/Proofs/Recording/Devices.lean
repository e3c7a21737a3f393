import Multibody.Proofs.Lifecycle.Activity

/-!
# Which devices a buffered frame records

A snapshot records all devices when the run outputs every device state, and
otherwise the reported indices that name a device (`devices_takeSnapshot`).
Reports (`Lab.notifyDeviceChange`) collect in `Run.notes` until the body's
frame is buffered at the end of a step (`Lab.completeStep_buffers`).  With
handlers that log their reports (`Handlers.Notifies`), a step's frame
records the devices reported since the previous one
(`Lab.step_records_devices`); `DeviceRecording` collects these facts.
-/

namespace Multibody

/-- The indices of a body's `n` devices that a snapshot records: all of
them, in index order, when every device is recorded; otherwise the changed
indices that name a device, in the order given. -/
def SnapshotOptions.recorded (opts : SnapshotOptions) (n : Nat) : List Nat :=
  if opts.allDevices then List.range n
  else (opts.changedDevices.toList.filter fun i => 0 ≤ i ∧ i.toNat < n).map Int.toNat

/-- The state of a body's `i`-th device, as a snapshot records it. -/
def Assembly.deviceState (a : Assembly) (b : BodyId) (i : Nat) : DeviceState :=
  ⟨i, ((a.body b).devices[i]!).on, ((a.body b).devices[i]!).values⟩

namespace Assembly

variable (a : Assembly) (b : BodyId)

theorem filterMap_changed (ds : Array Device) (hd : ds = (a.body b).devices) (is : List Int) :
    is.filterMap (fun i => if i ≥ 0 then (ds[i.toNat]?).map fun d => (⟨i.toNat, d.on, d.values⟩ : DeviceState)
      else none) =
      ((is.filter fun i => 0 ≤ i ∧ i.toNat < ds.size).map Int.toNat).map (a.deviceState b) := by
  induction is with
  | nil => rfl
  | cons i is ih =>
    rw [List.filterMap_cons, ih, List.filter_cons]
    by_cases hi : 0 ≤ i ∧ i.toNat < ds.size
    · -- a device the index names is recorded with its state
      simp [hi.1, hi, deviceState, ← hd]
    · by_cases h0 : 0 ≤ i
      · -- an index past the devices is skipped
        have hge : ¬i < (ds.size : Int) := by omega
        simp [h0, hge]
      · simp [h0]

theorem devices_takeSnapshot {base : Snapshot} {opts : SnapshotOptions} {s : Snapshot}
    (h : a.takeSnapshot b base opts = .ok s) :
    s.devices.toList = (opts.recorded (a.body b).devices.size).map (a.deviceState b) := by
  unfold takeSnapshot at h
  cases hr : a.rootOf b with
  | error e => simp [hr, bind, Except.bind] at h
  | ok r =>
    simp only [hr, bind, Except.bind, pure, Except.pure, Except.ok.injEq] at h
    subst h
    unfold SnapshotOptions.recorded
    by_cases hall : opts.allDevices
    · -- every device, in index order
      simp only [hall, if_true]
      apply List.ext_getElem
      · simp
      · intro i h₁ h₂
        have hi : i < (a.body b).devices.size := by simpa using h₂
        simp [deviceState, getElem!_pos (a.body b).devices i hi]
    · simp only [hall, Bool.false_eq_true, if_false, Array.toList_filterMap]
      exact filterMap_changed a b _ rfl _

theorem takeSnapshot_ok {r : LinkId} (hr : (a.body b).root = some r) (base : Snapshot) (opts : SnapshotOptions) :
    ∃ s, a.takeSnapshot b base opts = .ok s := by
  unfold takeSnapshot
  simp [rootOf, hr, bind, Except.bind, pure, Except.pure]

end Assembly

namespace Sim

variable {τ σ : Type}

/-! ## The lists of changed devices -/

/-- Each body's list of devices reported changed since its last frame was
buffered. -/
def Run.notes (r : Run) : Array (Array Int) := r.bodies.map (·.changedDevices)

/-- Reports made one after the other: each `(k, i)` adds `i` to the `k`-th
list. -/
def noted (notes : Array (Array Int)) (ns : List (Nat × Int)) : Array (Array Int) :=
  ns.foldl (fun n q => n.modify q.1 (·.push q.2)) notes

/-- The indices reported for the `k`-th body, in the order reported. -/
def reportsFor (ns : List (Nat × Int)) (k : Nat) : List Int :=
  ns.filterMap fun q => if q.1 = k then some q.2 else none

@[simp] theorem noted_nil (notes : Array (Array Int)) : noted notes [] = notes := rfl

theorem noted_cons (notes : Array (Array Int)) (q : Nat × Int) (ns : List (Nat × Int)) :
    noted notes (q :: ns) = noted (notes.modify q.1 (·.push q.2)) ns := rfl

theorem noted_append (notes : Array (Array Int)) (ns ns' : List (Nat × Int)) :
    noted notes (ns ++ ns') = noted (noted notes ns) ns' := by
  simp [noted, List.foldl_append]

@[simp] theorem size_noted (notes : Array (Array Int)) (ns : List (Nat × Int)) :
    (noted notes ns).size = notes.size := by
  induction ns generalizing notes with
  | nil => rfl
  | cons q ns ih => rw [noted_cons, ih, Array.size_modify]

theorem getElem?_noted (notes : Array (Array Int)) (ns : List (Nat × Int)) (k : Nat) :
    (noted notes ns)[k]? = notes[k]?.map (· ++ (reportsFor ns k).toArray) := by
  induction ns generalizing notes with
  | nil => simp [reportsFor]
  | cons q ns ih =>
    rw [noted_cons, ih, Array.getElem?_modify]
    by_cases hq : q.1 = k
    · cases notes[k]? <;> simp [reportsFor, hq]
    · cases notes[k]? <;> simp [reportsFor, hq]

theorem Run.size_notes (r : Run) : r.notes.size = r.bodies.size := Array.size_map ..

/-- The lists hold exactly the reports `ps`, in the order made. -/
def Run.Waiting (r : Run) (ps : List (Nat × Int)) : Prop :=
  r.notes = noted (Array.replicate r.bodies.size #[]) ps

theorem Run.Waiting.changed {r : Run} {ps : List (Nat × Int)} (hw : r.Waiting ps) {k : Nat} {sb : SimBody}
    (hk : r.bodies[k]? = some sb) : sb.changedDevices = (reportsFor ps k).toArray := by
  have hget := congrArg (·[k]?) hw
  have hlt : k < r.bodies.size := (Array.getElem?_eq_some_iff.1 hk).1
  simp only [Run.notes, Array.getElem?_map, hk, getElem?_noted, Array.getElem?_replicate, hlt, if_true,
    Option.map_some, Option.some.injEq] at hget
  simpa using hget

theorem Run.Waiting.noted {r r' : Run} {ps ns : List (Nat × Int)} (hw : r.Waiting ps)
    (h : r'.notes = noted r.notes ns) : r'.Waiting (ps ++ ns) := by
  have hsize : r'.bodies.size = r.bodies.size := by
    rw [← Run.size_notes, ← Run.size_notes, h, size_noted]
  unfold Run.Waiting
  rw [h, hw, noted_append, hsize]

theorem Run.waiting_nil {r : Run} (h : ∀ sb ∈ r.bodies, sb.changedDevices = #[]) : r.Waiting [] := by
  unfold Run.Waiting Run.notes
  apply Array.ext (by simp)
  intro i h₁ h₂
  simp only [Array.getElem_map, noted_nil, Array.getElem_replicate]
  exact h _ (Array.getElem_mem _)

theorem Run.notes_view : RunView Run.notes :=
  RunView.of_bodies (·.changedDevices) (fun v => v) (fun _ _ => rfl) (fun _ _ => rfl)

namespace Lab

variable (lab : Lab τ σ)

theorem notes_notifyDeviceChange (k : Nat) (i : Int) :
    (lab.notifyDeviceChange k i).run.notes = noted lab.run.notes [(k, i)] ∧
      (lab.notifyDeviceChange k i).assembly = lab.assembly := by
  refine ⟨?_, rfl⟩
  unfold notifyDeviceChange
  rw [run_modifyBody]
  exact @Array.map_modify _ _ (fun sb : SimBody => sb.changedDevices)
    (fun sb => { sb with changedDevices := sb.changedDevices.push i }) (fun d => d.push i) (fun _ => rfl) _ _

/-! ## Buffering -/

theorem bufferedSnapshot_congr {x y : Lab τ σ} {k : Nat} (hb : x.run.bodies.getD k default = y.run.bodies.getD k default)
    (ho : x.run.opts = y.run.opts) (ha : x.assembly = y.assembly) (frame : Int) (time : Float) :
    x.bufferedSnapshot k frame time = y.bufferedSnapshot k frame time := by
  unfold bufferedSnapshot
  dsimp only
  rw [hb, ho, ha]

theorem devices_bufferedSnapshot {k : Nat} {sb : SimBody} (hk : lab.run.bodies[k]? = some sb) {r : LinkId}
    (hr : (lab.assembly.body sb.body).root = some r) (frame : Int) (time : Float) :
    (lab.bufferedSnapshot k frame time).devices.toList =
      ({ lab.run.opts with changedDevices := sb.changedDevices }.recorded (lab.assembly.body sb.body).devices.size).map
        (lab.assembly.deviceState sb.body) := by
  have hget : lab.run.bodies.getD k default = sb := by simp [Array.getD_eq_getD_getElem?, hk]
  obtain ⟨s, hs⟩ := lab.assembly.takeSnapshot_ok sb.body hr {} { lab.run.opts with changedDevices := sb.changedDevices }
  unfold bufferedSnapshot
  simp only [hget, hs, Except.toOption, Option.getD_some]
  exact lab.assembly.devices_takeSnapshot sb.body hs

theorem bufferAll_bodies :
    lab.bufferAll.run.bodies =
      lab.run.bodies.mapIdx (fun k sb => sb.pushResult (lab.bufferedSnapshot k lab.run.frame lab.run.time)) ∧
      lab.bufferAll.assembly = lab.assembly := by
  set frame := lab.run.frame
  set t := lab.run.time
  let snap := fun k => lab.bufferedSnapshot k frame t
  -- after the first `m` bodies, exactly those have pushed their snapshot
  have key : ∀ m, ((List.range m).foldl (fun l k => l.bufferResults k frame t) lab).run.bodies =
        lab.run.bodies.mapIdx (fun k sb => if k < m then sb.pushResult (snap k) else sb) ∧
      ((List.range m).foldl (fun l k => l.bufferResults k frame t) lab).run.opts = lab.run.opts ∧
      ((List.range m).foldl (fun l k => l.bufferResults k frame t) lab).assembly = lab.assembly := by
    intro m
    induction m with
    | zero =>
      refine ⟨?_, rfl, rfl⟩
      apply Array.ext (by simp)
      intro i h₁ h₂
      simp
    | succ m ih =>
      obtain ⟨hb, ho, ha⟩ := ih
      rw [List.range_succ, List.foldl_append, List.foldl_cons, List.foldl_nil]
      generalize hL : (List.range m).foldl (fun l k => l.bufferResults k frame t) lab = L at hb ho ha
      -- the `m`-th body has not pushed yet, so it takes its snapshot of the lab
      have hsnap : L.bufferedSnapshot m frame t = snap m := by
        apply bufferedSnapshot_congr _ ho ha
        rw [hb]
        simp only [Array.getD_eq_getD_getElem?, Array.getElem?_mapIdx]
        cases lab.run.bodies[m]? <;> simp
      rw [bufferResults_eq, hsnap, run_modifyBody]
      refine ⟨?_, ho, ha⟩
      rw [hb]
      apply Array.ext (by simp)
      intro i h₁ h₂
      simp only [Array.getElem_modify, Array.getElem_mapIdx]
      rcases Nat.lt_trichotomy i m with hi | rfl | hi
      · simp [hi, Nat.ne_of_gt hi, Nat.lt_succ_of_lt hi]
      · simp
      · simp [Nat.ne_of_lt hi, Nat.not_lt_of_gt hi, show ¬i < m + 1 by omega]
  obtain ⟨hb, -, ha⟩ := key lab.run.bodies.size
  unfold bufferAll
  refine ⟨?_, ha⟩
  rw [hb]
  apply Array.ext (by simp)
  intro i h₁ h₂
  simp only [Array.getElem_mapIdx, Array.size_mapIdx] at h₁ ⊢
  rw [if_pos h₁]

theorem notes_flush : lab.flush.run.notes = lab.run.notes := by
  rw [Run.notes, run_flush]
  simp [Run.notes, Array.map_map, Function.comp_def]

/-- `after` is `before` with the snapshot `snap k` pushed to the buffer of
each body `k`, and perhaps published since; no body of the assembly
changed. -/
def Buffered (before after : Lab τ σ) (snap : Nat → Snapshot) : Prop :=
  ∃ B : Lab τ σ, (after = B ∨ after = B.flush) ∧
    B.run.bodies = before.run.bodies.mapIdx (fun k sb => sb.pushResult (snap k)) ∧ B.assembly = before.assembly

theorem completeStep_buffers (h : Handlers τ σ) :
    ∃ (F : Int) (t : Float), lab.Buffered (lab.completeStep h) fun k => lab.bufferedSnapshot k F t := by
  -- the frame advances first, which changes neither the bodies nor the assembly
  set L := (lab.modifyRun fun r => { r with frame := r.frame + 1 }).modifySim
    fun s => { s with currentFrame := (lab.modifyRun fun r => { r with frame := r.frame + 1 }).run.frame }
  have hbodies : L.run.bodies = lab.run.bodies := run_view_modifyRun lab Run.bodies fun _ => rfl
  have hopts : L.run.opts = lab.run.opts := run_view_modifyRun lab Run.opts fun _ => rfl
  have hsnap : ∀ k F t, L.bufferedSnapshot k F t = lab.bufferedSnapshot k F t :=
    fun k => bufferedSnapshot_congr (by rw [hbodies]) hopts rfl
  obtain ⟨hb, ha⟩ := bufferAll_bodies L
  refine ⟨L.run.frame, L.run.time, L.bufferAll.measure (·.setFrame L.run.frame), ?_, ?_, ha⟩
  · unfold completeStep
    dsimp only
    split
    · exact Or.inr rfl
    · exact Or.inl rfl
  · rw [run_measure, hb, hbodies]
    simp only [hsnap]

theorem Buffered.waiting_nil {before after : Lab τ σ} {snap : Nat → Snapshot} (hb : before.Buffered after snap) :
    after.run.Waiting [] := by
  obtain ⟨B, hafter, hbodies, -⟩ := hb
  have hB : ∀ sb ∈ B.run.bodies, sb.changedDevices = #[] := by
    intro sb hsb
    rw [hbodies] at hsb
    obtain ⟨k, hk, rfl⟩ := Array.mem_iff_getElem.1 hsb
    simp [SimBody.pushResult]
  rcases hafter with rfl | rfl
  · exact Run.waiting_nil hB
  · -- publishing empties the buffers, not the lists
    have hw := Run.waiting_nil hB
    unfold Run.Waiting at hw ⊢
    rw [notes_flush, hw, run_flush]
    simp

/-! ## Reports the driver logs -/

/-- `x` is `lab` with reports made that the driver logged: the log gained
them, and the lists gained them in the order made. -/
def ReportsLogged (log : σ → List (Nat × Int)) (x : Lab τ σ) : Prop :=
  ∃ ns, log x.session = log lab.session ++ ns ∧ x.run.notes = noted lab.run.notes ns

variable {log : σ → List (Nat × Int)} {lab}

theorem ReportsLogged.refl : lab.ReportsLogged log lab := ⟨[], by simp, rfl⟩

theorem ReportsLogged.trans {x y : Lab τ σ} (h₁ : lab.ReportsLogged log x) (h₂ : x.ReportsLogged log y) :
    lab.ReportsLogged log y := by
  obtain ⟨ns, hl, hn⟩ := h₁
  obtain ⟨ns', hl', hn'⟩ := h₂
  exact ⟨ns ++ ns', by rw [hl', hl, List.append_assoc], by rw [hn', hn, noted_append]⟩

theorem ReportsLogged.keep {x y : Lab τ σ} (hx : lab.ReportsLogged log x) (hs : y.session = x.session)
    (hn : y.run.notes = x.run.notes) : lab.ReportsLogged log y := by
  obtain ⟨ns, hl, hnotes⟩ := hx
  exact ⟨ns, hs ▸ hl, hn ▸ hnotes⟩

end Lab

/-- The driver's hooks and observers change the lists of changed devices
only by reports, and log each report they make. -/
structure Handlers.Notifies (h : Handlers τ σ) (log : σ → List (Nat × Int)) : Prop where
  hook : ∀ id task (l : Lab τ σ), l.ReportsLogged log (h.hook id task l).1
  event : ∀ ev (l : Lab τ σ), l.ReportsLogged log (h.event ev l)

namespace Lab

variable {h : Handlers τ σ} {log : σ → List (Nat × Int)}

theorem reportsLogged_beginStep (hn : h.Notifies log) (lab : Lab τ σ) : lab.ReportsLogged log (lab.beginStep h) := by
  unfold beginStep
  dsimp only
  split
  · refine ReportsLogged.trans ?_ (hn.event _ _)
    refine ReportsLogged.refl.keep rfl ?_
    exact run_view_modifyRun _ Run.notes fun r => by
      simp [Run.notes, Run.rebuildActive, Array.map_map, Function.comp_def]
  · exact ReportsLogged.refl.keep rfl rfl

theorem step_reports (hn : h.Notifies log) (lab : Lab τ σ) :
    ((lab.step h).2.isSome ∧ lab.ReportsLogged log (lab.step h).1) ∨
      ∃ mid, lab.ReportsLogged log mid ∧ lab.step h = (mid.completeStep h, none) :=
  step_cases_after (lab.ReportsLogged log)
    (fun x hx => hx.keep (session_of_hookView (hookView_clearForces x)) (by rw [run_clearForces]))
    (fun x p hx => hx.keep (session_of_hookView (hookView_applyPerturbations x p))
      (Run.notes_view.applyPerturbations x p))
    (fun x p hx => hx.keep (session_of_hookView (hookView_holdForcedPoses x p)) (by rw [(holdForcedPoses_keeps x p).1]))
    (fun x hx => hx.keep (session_of_hookView (hookView_runAllControllers x)) (Run.notes_view.runAllControllers x))
    (fun x ph hx => runPhase_preserves x (lab.ReportsLogged log) (fun id task l hl => hl.trans (hn.hook id task l)) ph hx)
    (fun x hx => hx.keep (session_of_hookView (hookView_detectCollisions x)) (Run.notes_view.detectCollisions x))
    (fun x hx => hx.keep (session_of_hookView (hookView_advance x)) (by rw [run_advance]))
    (reportsLogged_beginStep hn lab)

theorem ReportsLogged.waiting {lab x : Lab τ σ} {ps : List (Nat × Int)} (hx : lab.ReportsLogged log x)
    (hw : lab.run.Waiting ps) : ∃ ns, log x.session = log lab.session ++ ns ∧ x.run.Waiting (ps ++ ns) := by
  obtain ⟨ns, hl, hn⟩ := hx
  exact ⟨ns, hl, hw.noted hn⟩

theorem waiting_notifyDeviceChange {lab : Lab τ σ} {ps : List (Nat × Int)} (hw : lab.run.Waiting ps) (k : Nat) (i : Int) :
    (lab.notifyDeviceChange k i).run.Waiting (ps ++ [(k, i)]) ∧ (lab.notifyDeviceChange k i).assembly = lab.assembly :=
  ⟨hw.noted (lab.notes_notifyDeviceChange k i).1, (lab.notes_notifyDeviceChange k i).2⟩

theorem reportsLogged_holdRun (hn : h.Notifies log) (lab : Lab τ σ) : lab.ReportsLogged log (lab.holdRun h).1 := by
  have hflush : lab.ReportsLogged log lab.flush :=
    ReportsLogged.refl.keep (session_of_hookView (hookView_flush lab)) (notes_flush lab)
  have hpaused : ∀ ev, lab.ReportsLogged log (h.event ev lab.flush) := fun ev => hflush.trans (hn.event ev _)
  unfold holdRun
  dsimp only
  split
  · exact hpaused _
  · exact (hpaused _).trans (hn.event _ _)

theorem reportsLogged_opened (lab : Lab τ σ) (reset : Bool) : lab.ReportsLogged log (lab.opened reset) := by
  refine ReportsLogged.refl.keep ?_ ?_
  · unfold opened
    dsimp only
    split <;> rfl
  · unfold opened
    dsimp only
    split
    · exact run_view_modifyRun _ Run.notes fun _ => rfl
    · rfl

theorem prepareBodies_unnoted (cfg : Config) :
    ∀ (pairs : List (Nat × BodyId)) (lab lab' : Lab τ σ) (bodies bodies' : Array SimBody),
      prepareBodies cfg pairs lab bodies = (lab', .ok bodies') →
      (∀ sb ∈ bodies, sb.changedDevices = #[]) → ∀ sb ∈ bodies', sb.changedDevices = #[]
  | [], lab, lab', bodies, bodies', h, hb => by
    simp only [prepareBodies, Prod.mk.injEq, Except.ok.injEq] at h
    obtain ⟨rfl, rfl⟩ := h
    exact hb
  | (i, c) :: rest, lab, lab', bodies, bodies', h, hb => by
    unfold prepareBodies at h
    split at h
    · simp at h
    · exact prepareBodies_unnoted cfg rest _ lab' bodies bodies' h hb
    · exact prepareBodies_unnoted cfg rest _ lab' _ bodies' h fun sb hsb => by
        rcases Array.mem_push.1 hsb with hsb | rfl
        · exact hb sb hsb
        · rfl

theorem setup_waiting {lab : Lab τ σ} {reset : Bool} (hs : (lab.setup reset).2 = none) :
    (lab.setup reset).1.run.Waiting [] := by
  obtain ⟨cfg, pairs, lab₁, lab₂, bodies, r, heqb, hbodies, -, hb, -⟩ := setup_made hs
  apply Run.waiting_nil
  intro sb hsb
  rw [hb] at hsb
  simp only [Run.rebuildActive, Array.mem_map] at hsb
  obtain ⟨sb', hsb', rfl⟩ := hsb
  exact prepareBodies_unnoted cfg pairs lab₁ lab₂ #[] bodies heqb (by simp) sb' (hbodies ▸ hsb')

/-- The frame a step buffers records, for each body with a root, every
device in index order when the run records them all, and otherwise the
in-range indices reported for it since the last buffered frame, in the order
reported; each with its state at the end of the step.  The step leaves no
report waiting. -/
theorem step_records_devices (hn : h.Notifies log) {lab : Lab τ σ} {ps : List (Nat × Int)} (hw : lab.run.Waiting ps)
    (hs : (lab.step h).2 = none) :
    ∃ (ns : List (Nat × Int)) (mid : Lab τ σ) (snap : Nat → Snapshot),
      log (lab.step h).1.session = log lab.session ++ ns ∧ lab.step h = (mid.completeStep h, none) ∧
      mid.Buffered (lab.step h).1 snap ∧ (lab.step h).1.run.Waiting [] ∧
      ∀ (k : Nat) (sb : SimBody) (r : LinkId), mid.run.bodies[k]? = some sb → (mid.assembly.body sb.body).root = some r →
        (snap k).devices.toList =
          ({ mid.run.opts with changedDevices := (reportsFor (ps ++ ns) k).toArray }.recorded
            (mid.assembly.body sb.body).devices.size).map (mid.assembly.deviceState sb.body) := by
  rcases step_reports hn lab with ⟨hfail, -⟩ | ⟨mid, ⟨ns, hlog, hnotes⟩, hstep⟩
  · simp [hs] at hfail
  · obtain ⟨F, t, hbuf⟩ := completeStep_buffers mid h
    -- at the end of the step the lists hold the reports before it and those made in it
    have hwm : mid.run.Waiting (ps ++ ns) := hw.noted hnotes
    refine ⟨ns, mid, fun k => mid.bufferedSnapshot k F t, ?_, hstep, ?_, ?_, ?_⟩
    · rw [hstep, session_of_hookView (hookView_completeStep mid h)]
      exact hlog
    · rw [hstep]
      exact hbuf
    · rw [hstep]
      exact hbuf.waiting_nil
    · intro k sb r hk hr
      rw [devices_bufferedSnapshot mid hk hr, hwm.changed hk]

end Lab

/-! ## The contract -/

/-- What a driver whose hooks and observers change the lists of changed
devices only by reports they log can rely on. -/
structure DeviceRecording (h : Handlers τ σ) (log : σ → List (Nat × Int)) : Prop where
  /-- A snapshot records every device in index order when its options ask
  for all of them, and otherwise the changed indices that name a device, in
  the order given; each with its state in the assembly it is taken from. -/
  snapshot : ∀ (a : Assembly) (b : BodyId) (base : Snapshot) (opts : SnapshotOptions) (s : Snapshot),
    a.takeSnapshot b base opts = .ok s → s.devices.toList = (opts.recorded (a.body b).devices.size).map (a.deviceState b)
  /-- A run starts with no report waiting; the observers of its start add
  the reports they log. -/
  start : ∀ (lab : Lab τ σ) (reset : Bool), (lab.setup reset).2 = none →
    (lab.setup reset).1.run.Waiting [] ∧ ∀ ev, ∃ ns,
      log (h.event ev ((lab.setup reset).1.opened reset)).session = log (lab.setup reset).1.session ++ ns ∧
      (h.event ev ((lab.setup reset).1.opened reset)).run.Waiting ns
  /-- A report waits after those before it, and changes no body of the
  assembly. -/
  report : ∀ (lab : Lab τ σ) (ps : List (Nat × Int)) (k : Nat) (i : Int), lab.run.Waiting ps →
    (lab.notifyDeviceChange k i).run.Waiting (ps ++ [(k, i)]) ∧ (lab.notifyDeviceChange k i).assembly = lab.assembly
  /-- A hold adds the reports its observers log. -/
  hold : ∀ (lab : Lab τ σ) (ps : List (Nat × Int)), lab.run.Waiting ps →
    ∃ ns, log (lab.holdRun h).1.session = log lab.session ++ ns ∧ (lab.holdRun h).1.run.Waiting (ps ++ ns)
  /-- The frame a step buffers records, for each body with a root, all its
  devices or the in-range ones reported since the last buffered frame, in
  the order reported, each with its state at the end of the step; the step
  leaves no report waiting and changes no body of the assembly after its
  engine. -/
  step : ∀ (lab : Lab τ σ) (ps : List (Nat × Int)), lab.run.Waiting ps → (lab.step h).2 = none →
    ∃ (ns : List (Nat × Int)) (mid : Lab τ σ) (snap : Nat → Snapshot),
      log (lab.step h).1.session = log lab.session ++ ns ∧ lab.step h = (mid.completeStep h, none) ∧
      mid.Buffered (lab.step h).1 snap ∧ (lab.step h).1.run.Waiting [] ∧
      ∀ (k : Nat) (sb : SimBody) (r : LinkId), mid.run.bodies[k]? = some sb → (mid.assembly.body sb.body).root = some r →
        (snap k).devices.toList =
          ({ mid.run.opts with changedDevices := (reportsFor (ps ++ ns) k).toArray }.recorded
            (mid.assembly.body sb.body).devices.size).map (mid.assembly.deviceState sb.body)

/-- Buffered frames record the reported devices: a driver whose hooks and
observers change the lists of changed devices only by reports they log has
the device recording contract. -/
theorem buffered_frames_record_reported_devices {h : Handlers τ σ} {log : σ → List (Nat × Int)} (hn : h.Notifies log) :
    DeviceRecording h log where
  snapshot a b _ _ _ hs := a.devices_takeSnapshot b hs
  start lab reset hs := by
    have hw := Lab.setup_waiting hs
    refine ⟨hw, fun ev => ?_⟩
    obtain ⟨ns, hl, hns⟩ := ((Lab.reportsLogged_opened _ reset).trans (hn.event ev _)).waiting hw
    exact ⟨ns, hl, by simpa using hns⟩
  report _ _ k i hw := Lab.waiting_notifyDeviceChange hw k i
  hold lab _ hw := (Lab.reportsLogged_holdRun hn lab).waiting hw
  step _ _ hw hs := Lab.step_records_devices hn hw hs

/-- A driver whose hooks report a device of a body changed and log the
report. -/
def notifyingDriver : Handlers (Nat × Int) (List (Nat × Int)) where
  hook _ task lab := ({ lab.notifyDeviceChange task.1 task.2 with session := lab.session ++ [task] }, none)
  event _ lab := lab

theorem notifyingDriver_notifies : notifyingDriver.Notifies id where
  hook _ task lab := ⟨[task], rfl, (lab.notes_notifyDeviceChange task.1 task.2).1⟩
  event _ _ := Lab.ReportsLogged.refl

theorem notifyingDriver_records_reported_devices :
    notifyingDriver.Notifies id ∧ DeviceRecording notifyingDriver id :=
  ⟨notifyingDriver_notifies, buffered_frames_record_reported_devices notifyingDriver_notifies⟩

end Sim

end Multibody
