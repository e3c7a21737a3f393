import Multibody.Proofs.Schedule.Stages
import Multibody.Proofs.Lifecycle.Trail
import Multibody.Proofs.Schedule.RunView

/-!
# Which bodies take part in a step

`Lab.setActive` only records a body's request and flags a change; the next
step boundary (`Lab.beginStep`) marks every body as requested, lists the
marked bodies in world order and tells the observers.

`Run.Settled` holds between boundaries (`Lab.setup_activity`,
`Lab.loop_settled`).  From a settled lab a step hands the engine exactly the
requested clones and announces them once when a request changed
(`Lab.step_activity`); the announcement follows the flag, not the list
(`Lab.undone_request_is_announced`).
-/

namespace Multibody.Sim

variable {τ σ : Type}

/-- A body marked and requested exactly when its clone is not a static model
of the assembly. -/
def SimBody.Fresh (sb : SimBody) (a : Assembly) : Prop := sb.active = !a.isStaticModel sb.body ∧ sb.wantActive = sb.active

namespace Run

/-- Asks body `k` of the run to take part or not: the request is recorded,
and when it changes the activity is marked as changed. -/
def request (r : Run) (k : Nat) (on : Bool) : Run :=
  match r.bodies[k]? with
  | some sb =>
    if sb.wantActive == on then r
    else { r with bodies := r.bodies.modify k fun sb => { sb with wantActive := on }, activityDirty := true }
  | none => r

/-- Requests made one after the other. -/
def requestAll (r : Run) (reqs : List (Nat × Bool)) : Run :=
  reqs.foldl (fun r q => r.request q.1 q.2) r

/-- The bodies whose latest request is to take part, in world order. -/
def requested (r : Run) : Array Nat :=
  (List.range r.bodies.size).toArray.filter fun k => (r.bodies[k]!).wantActive

/-- The bodies marked active, in world order: the list a boundary builds. -/
def marked (r : Run) : Array Nat :=
  (List.range r.bodies.size).toArray.filter fun k => (r.bodies[k]!).active

/-- The clones of some of the run's bodies, in the order given. -/
def clonesOf (r : Run) (ks : Array Nat) : Array BodyId := ks.map fun k => (r.bodies.getD k default).body

/-- Each body's mark. -/
def marks (r : Run) : Array Bool := r.bodies.map (·.active)

/-- Each body's latest request. -/
def wants (r : Run) : Array Bool := r.bodies.map (·.wantActive)

/-- What the run keeps of which bodies take part: each body's clone, mark
and request, the active list, and whether a request changed. -/
def activity (r : Run) : Array (BodyId × Bool × Bool) × Array Nat × Bool :=
  (r.bodies.map fun sb => (sb.body, sb.active, sb.wantActive), r.active, r.activityDirty)

/-- Every body marked and requested exactly when its clone is not a static
model of the assembly: how a run starts. -/
def Fresh (r : Run) (a : Assembly) : Prop := ∀ sb ∈ r.bodies, sb.Fresh a

/-- Between two boundaries: the active list lists the marked bodies, and the
marks are the requests unless a request changed since the last boundary. -/
structure Settled (r : Run) : Prop where
  listed : r.active = r.marked
  clean : r.activityDirty = false → r.marks = r.wants

end Run

namespace Run

variable {r r' : Run}

theorem getElem!_marks (r : Run) (k : Nat) : r.marks[k]! = (r.bodies[k]!).active := by
  simp only [marks, Array.getElem!_eq_getD, Array.getD_eq_getD_getElem?, Array.getElem?_map]
  cases r.bodies[k]? <;> rfl

theorem getElem!_wants (r : Run) (k : Nat) : r.wants[k]! = (r.bodies[k]!).wantActive := by
  simp only [wants, Array.getElem!_eq_getD, Array.getD_eq_getD_getElem?, Array.getElem?_map]
  cases r.bodies[k]? <;> rfl

theorem marked_eq_of_marks (h : r.marks = r'.marks) : r.marked = r'.marked := by
  have hs : r.bodies.size = r'.bodies.size := by simpa [marks] using congrArg Array.size h
  have hk : (fun k : Nat => SimBody.active r.bodies[k]!) = fun k => SimBody.active r'.bodies[k]! := by
    funext k
    rw [← getElem!_marks, ← getElem!_marks, h]
  unfold marked
  rw [hs, hk]

theorem requested_eq_of_wants (h : r.wants = r'.wants) : r.requested = r'.requested := by
  have hs : r.bodies.size = r'.bodies.size := by simpa [wants] using congrArg Array.size h
  have hk : (fun k : Nat => SimBody.wantActive r.bodies[k]!) = fun k => SimBody.wantActive r'.bodies[k]! := by
    funext k
    rw [← getElem!_wants, ← getElem!_wants, h]
  unfold requested
  rw [hs, hk]

theorem marked_eq_requested (h : r.marks = r.wants) : r.marked = r.requested := by
  have hk : (fun k : Nat => SimBody.active r.bodies[k]!) = fun k => SimBody.wantActive r.bodies[k]! := by
    funext k
    rw [← getElem!_marks, ← getElem!_wants, h]
  unfold marked requested
  rw [hk]

section Activity

variable (h : r.activity = r'.activity)
include h

theorem active_of_activity : r.active = r'.active := congrArg (·.2.1) h

theorem activityDirty_of_activity : r.activityDirty = r'.activityDirty := congrArg (·.2.2) h

theorem marks_of_activity : r.marks = r'.marks := by
  have := congrArg (fun v => v.1.map (·.2.1)) h
  simpa [activity, marks, Array.map_map, Function.comp_def] using this

theorem wants_of_activity : r.wants = r'.wants := by
  have := congrArg (fun v => v.1.map (·.2.2)) h
  simpa [activity, wants, Array.map_map, Function.comp_def] using this

theorem clonesOf_of_activity (ks : Array Nat) : r.clonesOf ks = r'.clonesOf ks := by
  have hb := congrArg (fun v => v.1.map (·.1)) h
  simp only [activity, Array.map_map, Function.comp_def] at hb
  have hk : ∀ k, (r.bodies.getD k default).body = (r'.bodies.getD k default).body := by
    intro k
    have := congrArg (·[k]?) hb
    simp only [Array.getElem?_map] at this
    simp only [Array.getD_eq_getD_getElem?]
    cases h₁ : r.bodies[k]? <;> cases h₂ : r'.bodies[k]? <;> simp_all
  simp only [clonesOf, hk]

theorem Fresh.of_activity {a : Assembly} (hf : r'.Fresh a) : r.Fresh a := by
  intro sb hsb
  have hv : r.bodies.map (fun sb => (sb.body, sb.active, sb.wantActive)) =
      r'.bodies.map (fun sb => (sb.body, sb.active, sb.wantActive)) := congrArg (·.1) h
  have hm : (sb.body, sb.active, sb.wantActive) ∈ r'.bodies.map fun sb => (sb.body, sb.active, sb.wantActive) := by
    rw [← hv]
    exact Array.mem_map_of_mem hsb
  obtain ⟨sb', hsb', he⟩ := Array.mem_map.1 hm
  simp only [Prod.mk.injEq] at he
  obtain ⟨hb, ha, hw⟩ := he
  obtain ⟨h₁, h₂⟩ := hf sb' hsb'
  exact ⟨by rw [← ha, h₁, hb], by rw [← hw, ← ha, h₂]⟩

theorem Settled.of_activity (hs : r'.Settled) : r.Settled where
  listed := by rw [active_of_activity h, hs.listed, marked_eq_of_marks (marks_of_activity h)]
  clean hd := by
    rw [marks_of_activity h, wants_of_activity h]
    exact hs.clean (by rwa [← activityDirty_of_activity h])

end Activity

/-! ## Requests -/

theorem request_of_none {k : Nat} (on : Bool) (hk : r.bodies[k]? = none) : r.request k on = r := by
  simp only [request, hk]

theorem request_of_same {k : Nat} {on : Bool} {sb : SimBody} (hk : r.bodies[k]? = some sb)
    (hs : sb.wantActive = on) : r.request k on = r := by
  simp [request, hk, hs]

theorem request_of_change {k : Nat} {on : Bool} {sb : SimBody} (hk : r.bodies[k]? = some sb)
    (hs : sb.wantActive ≠ on) :
    r.request k on =
      { r with bodies := r.bodies.modify k fun sb => { sb with wantActive := on }, activityDirty := true } := by
  simp [request, hk, hs]

theorem request_keeps (r : Run) (k : Nat) (on : Bool) :
    (r.request k on).marks = r.marks ∧ (r.request k on).active = r.active ∧
      ∀ ks, (r.request k on).clonesOf ks = r.clonesOf ks := by
  unfold request
  split
  · split
    · exact ⟨rfl, rfl, fun _ => rfl⟩
    · refine ⟨?_, rfl, fun ks => ?_⟩
      · apply Array.ext (by simp [marks])
        intro i h₁ h₂
        simp only [marks, Array.getElem_map, Array.getElem_modify]
        split <;> rfl
      · simp only [clonesOf, Array.getD_eq_getD_getElem?, Array.getElem?_modify]
        congr 1
        funext i
        split <;> cases r.bodies[i]? <;> rfl
  · exact ⟨rfl, rfl, fun _ => rfl⟩

theorem requestAll_keeps (reqs : List (Nat × Bool)) :
    ∀ r : Run, (r.requestAll reqs).marks = r.marks ∧ (r.requestAll reqs).active = r.active ∧
      ∀ ks, (r.requestAll reqs).clonesOf ks = r.clonesOf ks := by
  induction reqs with
  | nil => exact fun r => ⟨rfl, rfl, fun _ => rfl⟩
  | cons q reqs ih =>
    intro r
    obtain ⟨h₁, h₂, h₃⟩ := ih (r.request q.1 q.2)
    obtain ⟨k₁, k₂, k₃⟩ := r.request_keeps q.1 q.2
    exact ⟨h₁.trans k₁, h₂.trans k₂, fun ks => (h₃ ks).trans (k₃ ks)⟩

theorem Settled.request (hs : r.Settled) (k : Nat) (on : Bool) : (r.request k on).Settled := by
  obtain ⟨hm, ha, -⟩ := r.request_keeps k on
  refine ⟨by rw [ha, hs.listed, marked_eq_of_marks hm], fun hd => ?_⟩
  cases hk : r.bodies[k]? with
  | none => rw [request_of_none on hk]; exact hs.clean (by rwa [request_of_none on hk] at hd)
  | some sb =>
    by_cases hw : sb.wantActive = on
    · rw [request_of_same hk hw]
      exact hs.clean (by rwa [request_of_same hk hw] at hd)
    · rw [request_of_change hk hw] at hd
      cases hd

theorem Settled.requestAll (reqs : List (Nat × Bool)) : ∀ {r : Run}, r.Settled → (r.requestAll reqs).Settled := by
  induction reqs with
  | nil => exact fun hs => hs
  | cons q reqs ih => exact fun hs => ih (hs.request q.1 q.2)

theorem requestAll_append (r : Run) (reqs reqs' : List (Nat × Bool)) :
    r.requestAll (reqs ++ reqs') = (r.requestAll reqs).requestAll reqs' := by
  simp [requestAll, List.foldl_append]

end Run

namespace Run

variable {r r' : Run}

theorem activity_modify (r : Run) (k : Nat) {f : SimBody → SimBody}
    (hf : ∀ sb, (f sb).body = sb.body ∧ (f sb).active = sb.active ∧ (f sb).wantActive = sb.wantActive) :
    { r with bodies := r.bodies.modify k f }.activity = r.activity := by
  simp only [activity, Prod.mk.injEq, and_true]
  rw [@Array.map_modify _ _ (fun sb : SimBody => (sb.body, sb.active, sb.wantActive)) f (fun v => v)
    (fun sb => by obtain ⟨hb, ha, hw⟩ := hf sb; rw [hb, ha, hw])]
  exact Array.modify_eq_self (fun _ => rfl) _ _

theorem activity_view : RunView Run.activity where
  slot r k _ _ := activity_modify r k fun _ => ⟨rfl, rfl, rfl⟩
  held r k _ := activity_modify r k fun _ => ⟨rfl, rfl, rfl⟩
  clock _ _ := rfl
  detecting _ := rfl
  collisions _ _ := rfl

theorem activity_request_congr (h : r.activity = r'.activity) (k : Nat) (on : Bool) :
    (r.request k on).activity = (r'.request k on).activity := by
  have hb := congrArg (·.1[k]?) h
  simp only [activity, Array.getElem?_map] at hb
  have hdiff : ∀ (s : Run) (sb : SimBody), s.bodies[k]? = some sb → sb.wantActive ≠ on →
      (s.request k on).activity =
        ((s.bodies.map fun sb => (sb.body, sb.active, sb.wantActive)).modify k (fun v => (v.1, v.2.1, on)),
         s.active, true) := by
    intro s sb hk hw
    rw [request_of_change hk hw]
    simp only [activity, Prod.mk.injEq, and_true]
    exact @Array.map_modify _ _ (fun sb : SimBody => (sb.body, sb.active, sb.wantActive)) _ (fun v => (v.1, v.2.1, on))
      (fun _ => rfl) _ _
  cases h₁ : r.bodies[k]? with
  | none =>
    cases h₂ : r'.bodies[k]? with
    | none => rw [request_of_none on h₁, request_of_none on h₂, h]
    | some sb' => simp [h₁, h₂] at hb
  | some sb =>
    cases h₂ : r'.bodies[k]? with
    | none => simp [h₁, h₂] at hb
    | some sb' =>
      simp only [h₁, h₂, Option.map_some, Option.some.injEq, Prod.mk.injEq] at hb
      obtain ⟨-, -, hw⟩ := hb
      by_cases hon : sb.wantActive = on
      · rw [request_of_same h₁ hon, request_of_same h₂ (hw ▸ hon), h]
      · have hv : r.bodies.map (fun sb => (sb.body, sb.active, sb.wantActive)) =
            r'.bodies.map (fun sb => (sb.body, sb.active, sb.wantActive)) := congrArg (·.1) h
        rw [hdiff r sb h₁ hon, hdiff r' sb' h₂ (hw ▸ hon), hv, active_of_activity h]

theorem activity_requestAll_congr (reqs : List (Nat × Bool)) :
    ∀ {r r' : Run}, r.activity = r'.activity → (r.requestAll reqs).activity = (r'.requestAll reqs).activity := by
  induction reqs with
  | nil => exact fun h => h
  | cons q reqs ih => exact fun h => ih (activity_request_congr h q.1 q.2)

theorem activityDirty_request (r : Run) (k : Nat) (on : Bool) :
    (r.request k on).activityDirty = (r.activityDirty || (r.bodies[k]?.map (·.wantActive != on)).getD false) := by
  cases hk : r.bodies[k]? with
  | none => simp [request_of_none on hk]
  | some sb =>
    by_cases hw : sb.wantActive = on
    · simp [request_of_same hk hw, hw]
    · simp [request_of_change hk hw, hw]

theorem wants_request (r : Run) (k : Nat) (on : Bool) : (r.request k on).wants = r.wants.setIfInBounds k on := by
  apply Array.ext_getElem?
  intro i
  rw [Array.getElem?_setIfInBounds]
  cases hk : r.bodies[k]? with
  | none =>
    -- a body out of range asks for nothing
    rw [request_of_none on hk]
    have : r.bodies.size ≤ k := by simpa using hk
    by_cases hi : k = i
    · subst hi
      simp [wants, this]
    · simp [hi]
  | some sb =>
    obtain ⟨hlt, hget⟩ := Array.getElem?_eq_some_iff.1 hk
    by_cases hi : k = i
    · subst hi
      by_cases hw : sb.wantActive = on
      · simp [request_of_same hk hw, wants, hget, hw, hlt]
      · simp [request_of_change hk hw, wants, hlt, Array.getElem_modify]
    · by_cases hw : sb.wantActive = on
      · simp [request_of_same hk hw, hi]
      · simp [request_of_change hk hw, wants, hi, Array.getElem?_modify]

/-- Run `r` is `r₀` after some requests, as far as which bodies take part
goes. -/
def Follows (r₀ r : Run) : Prop := ∃ reqs : List (Nat × Bool), r.activity = (r₀.requestAll reqs).activity

theorem Follows.refl (r : Run) : r.Follows r := ⟨[], rfl⟩

theorem Follows.of_activity {r₀ : Run} (hf : r₀.Follows r) (h : r'.activity = r.activity) : r₀.Follows r' := by
  obtain ⟨reqs, hr⟩ := hf
  exact ⟨reqs, h.trans hr⟩

theorem Follows.requestAll {r₀ : Run} (hf : r₀.Follows r) (reqs : List (Nat × Bool))
    (h : r'.activity = (r.requestAll reqs).activity) : r₀.Follows r' := by
  obtain ⟨reqs₀, hr⟩ := hf
  refine ⟨reqs₀ ++ reqs, ?_⟩
  rw [h, requestAll_append]
  exact activity_requestAll_congr reqs hr

theorem Follows.keeps {r₀ : Run} (hf : r₀.Follows r) :
    r.marks = r₀.marks ∧ r.active = r₀.active ∧ (∀ ks, r.clonesOf ks = r₀.clonesOf ks) ∧ (r₀.Settled → r.Settled) := by
  obtain ⟨reqs, hr⟩ := hf
  obtain ⟨h₁, h₂, h₃⟩ := requestAll_keeps reqs r₀
  exact ⟨(marks_of_activity hr).trans h₁, (active_of_activity hr).trans h₂,
    fun ks => (clonesOf_of_activity hr ks).trans (h₃ ks), fun hs => (hs.requestAll reqs).of_activity hr⟩

/-! ## The boundary -/

/-- The run a boundary leaves when a request changed: each body marked as
requested, the marked bodies listed, and the change taken in. -/
def rebuilt (r : Run) : Run := { r.rebuildActive with activityDirty := false }

theorem marks_rebuilt (r : Run) : r.rebuilt.marks = r.wants := by
  simp [rebuilt, rebuildActive, marks, wants, Function.comp_def]

theorem wants_rebuilt (r : Run) : r.rebuilt.wants = r.wants := by
  simp [rebuilt, rebuildActive, wants, Function.comp_def]

theorem active_rebuilt (r : Run) : r.rebuilt.active = r.requested := by
  have hm : r.rebuilt.active = r.rebuilt.marked := rfl
  rw [hm, marked_eq_requested (by rw [marks_rebuilt, wants_rebuilt]), requested_eq_of_wants (wants_rebuilt r)]

theorem clonesOf_rebuilt (r : Run) (ks : Array Nat) : r.rebuilt.clonesOf ks = r.clonesOf ks := by
  simp only [clonesOf, rebuilt, rebuildActive, Array.getD_eq_getD_getElem?, Array.getElem?_map]
  congr 1
  funext k
  cases r.bodies[k]? <;> rfl

theorem Fresh.rebuildActive {a : Assembly} (hf : ∀ sb ∈ r.bodies, sb.Fresh a) : r.rebuildActive.Fresh a := by
  intro sb hsb
  simp only [Run.rebuildActive, Array.mem_map] at hsb
  obtain ⟨sb₀, hsb₀, rfl⟩ := hsb
  obtain ⟨h₁, h₂⟩ := hf sb₀ hsb₀
  exact ⟨by rw [← h₁, h₂], rfl⟩

theorem Settled.rebuildActive (r : Run) : r.rebuildActive.Settled :=
  ⟨rfl, fun _ => by simp [Run.rebuildActive, marks, wants, Function.comp_def]⟩

theorem Settled.rebuilt (r : Run) : r.rebuilt.Settled :=
  ⟨rfl, fun _ => by rw [marks_rebuilt, wants_rebuilt]⟩

theorem Settled.active_eq_requested (hs : r.Settled) (hd : r.activityDirty = false) : r.active = r.requested := by
  rw [hs.listed, marked_eq_requested (hs.clean hd)]

end Run

namespace Run

theorem Follows.trans {r₀ r r' : Run} (hf : r₀.Follows r) (hg : r.Follows r') : r₀.Follows r' := by
  obtain ⟨reqs, hr⟩ := hg
  exact hf.requestAll reqs hr

/-- The run a step goes on from after its boundary: rebuilt when a request
changed since the last boundary, as it was otherwise. -/
def atBoundary (r : Run) : Run := if r.activityDirty then r.rebuilt else r

/-- What a boundary announces when a request changed: the requested bodies. -/
def announcement (r : Run) : Event :=
  { kind := .bodyListUpdated, frame := r.frame, time := r.time, active := r.requested }

variable {r : Run}

theorem Settled.atBoundary (hs : r.Settled) : r.atBoundary.Settled := by
  unfold Run.atBoundary
  split
  · exact Settled.rebuilt r
  · exact hs

theorem Settled.active_atBoundary (hs : r.Settled) : r.atBoundary.active = r.requested := by
  unfold Run.atBoundary
  split
  · exact active_rebuilt r
  · rename_i hd
    exact hs.active_eq_requested (Bool.eq_false_iff.mpr hd)

theorem Settled.marks_atBoundary (hs : r.Settled) : r.atBoundary.marks = r.wants := by
  unfold Run.atBoundary
  split
  · exact marks_rebuilt r
  · rename_i hd
    exact hs.clean (Bool.eq_false_iff.mpr hd)

theorem clonesOf_atBoundary (r : Run) (ks : Array Nat) : r.atBoundary.clonesOf ks = r.clonesOf ks := by
  unfold Run.atBoundary
  split
  · exact clonesOf_rebuilt r ks
  · rfl

theorem Settled.dirty_of_ne (hs : r.Settled) (hne : r.requested ≠ r.active) : r.activityDirty = true := by
  cases hd : r.activityDirty
  · exact absurd (hs.active_eq_requested hd).symm hne
  · rfl

end Run

/-- A driver whose hooks and observers change which bodies take part only by
requests. -/
structure Handlers.Requests (h : Handlers τ σ) : Prop where
  hook : ∀ id task (lab : Lab τ σ), lab.run.Follows (h.hook id task lab).1.run
  event : ∀ ev (lab : Lab τ σ), lab.run.Follows (h.event ev lab).run

namespace Lab

variable (lab : Lab τ σ)

theorem run_setActive (k : Nat) (on : Bool) : (lab.setActive k on).run = lab.run.request k on := by
  unfold setActive Run.request
  cases hr : lab.sim.run with
  | none => simp [run, hr]
  | some r =>
    rcases hk : r.bodies[k]? with _ | sb
    · simp [run, hr, hk]
    · by_cases hw : sb.wantActive = on <;> simp [run, hr, hk, hw, modifyBody, modifyRun, modifySim]

/-! ## The stages of a step -/

section Stages

theorem run_measure (f : Observe.Meter → Observe.Meter) : (lab.measure f).run = lab.run := rfl

theorem activity_modifyBody (k : Nat) {f : SimBody → SimBody}
    (hf : ∀ sb, (f sb).body = sb.body ∧ (f sb).active = sb.active ∧ (f sb).wantActive = sb.wantActive) :
    (lab.modifyBody k f).run.activity = lab.run.activity := by
  rw [run_modifyBody]
  exact Run.activity_modify _ _ hf

theorem activity_flush : lab.flush.run.activity = lab.run.activity := by
  rw [run_flush]
  simp [Run.activity, Array.map_map, Function.comp_def]

theorem activity_completeStep (h : Handlers τ σ) : (lab.completeStep h).run.activity = lab.run.activity := by
  have hbuf : ∀ (x : Lab τ σ) (frame : Int) (t : Float),
      ((List.range x.run.bodies.size).foldl (fun y k => y.bufferResults k frame t) x).run.activity =
        x.run.activity :=
    fun x frame t => foldl_keeps (fun y : Lab τ σ => y.run.activity) (fun y k => y.bufferResults k frame t)
      (fun y k => by unfold bufferResults; exact activity_modifyBody _ _ fun _ => ⟨rfl, rfl, rfl⟩) _ _
  have hframe : (lab.modifyRun fun r => { r with frame := r.frame + 1 }).run.activity = lab.run.activity :=
    run_view_modifyRun lab Run.activity fun _ => rfl
  have hsim : ∀ (x : Lab τ σ) (g : Int), (x.modifySim fun s => { s with currentFrame := g }).run = x.run :=
    fun _ _ => rfl
  have hmeasure : ∀ (x : Lab τ σ) g, (x.measure g).run = x.run := fun _ _ => rfl
  unfold completeStep bufferAll
  dsimp only
  split
  · rw [activity_flush, hmeasure, hbuf, hsim, hframe]
  · rw [hmeasure, hbuf, hsim, hframe]

end Stages

/-! ## A step -/

section Step

variable {h : Handlers τ σ}

/-- The lab a step hands its engine: after the controllers and the pre and
mid hooks, and after collision detection when the run detects; none when a
hook failed before. -/
def engineLab (h : Handlers τ σ) (lab : Lab τ σ) : Option (Lab τ σ) :=
  match (lab.controllersStart h).runAllControllers.runPhase h .pre with
  | (_, some _) => none
  | (l, none) =>
    match l.runPhase h .mid with
    | (_, some _) => none
    | (l, none) => some (if l.run.detecting then l.detectCollisions else l)

theorem engineLab_cases_after (P : Lab τ σ → Prop)
    (hclear : ∀ x, P x → P x.clearForces) (hpert : ∀ x p, P x → P (x.applyPerturbations p))
    (hhold : ∀ x p, P x → P (x.holdForcedPoses p)) (hctrl : ∀ x, P x → P x.runAllControllers)
    (hphase : ∀ x ph, P x → P (x.runPhase h ph).1) (hdetect : ∀ x, P x → P x.detectCollisions)
    {lab : Lab τ σ} (h₀ : P (lab.beginStep h)) : ∀ L, lab.engineLab h = some L → P L := by
  have hs : P (lab.controllersStart h) := by
    unfold controllersStart cleared
    dsimp only
    split
    · exact hclear _ h₀
    · exact hhold _ _ (hpert _ _ (hclear _ h₀))
  have hP : ∀ {x l : Lab τ σ} {ph : Phase} {a : Option Failure}, x.runPhase h ph = (l, a) → P x → P l := by
    intro x l ph a heq hx
    have := hphase x ph hx
    rwa [heq] at this
  intro L hL
  unfold engineLab at hL
  rcases hpre : (lab.controllersStart h).runAllControllers.runPhase h .pre with ⟨l₁, _ | f₁⟩ <;>
    rw [hpre] at hL
  · rcases hmid : l₁.runPhase h .mid with ⟨l₂, _ | f₂⟩ <;> simp only [hmid, Option.some.injEq, reduceCtorEq] at hL
    subst hL
    have h₂ := hP hmid (hP hpre (hctrl _ hs))
    split
    · exact hdetect _ h₂
    · exact h₂
  · cases hL

/-! ### Requests from the boundary on -/

variable {obs : σ → List (Event × Records)}

theorem run_rebuild (lab : Lab τ σ) (hd : lab.run.activityDirty = true) :
    ((lab.modifySim fun s => { s with pre := s.pre.apply, mid := s.mid.apply, post := s.post.apply }).modifyRun
      fun r => { r.rebuildActive with activityDirty := false }).run = lab.run.rebuilt := by
  cases hr : lab.sim.run with
  | none => simp [run, hr] at hd
  | some r => simp [run, modifyRun, modifySim, hr, Run.rebuilt]

theorem follows_runPhase (hq : h.Requests) {r₀ : Run} {x : Lab τ σ} (ph : Phase) (hx : r₀.Follows x.run) :
    r₀.Follows (x.runPhase h ph).1.run :=
  runPhase_preserves x (fun y => r₀.Follows y.run) (fun id task y hy => hy.trans (hq.hook id task y)) ph hx

theorem follows_beginStep (hq : h.Requests) (lab : Lab τ σ) : lab.run.atBoundary.Follows (lab.beginStep h).run := by
  have hhooks : (lab.modifySim fun s => { s with pre := s.pre.apply, mid := s.mid.apply, post := s.post.apply }).run =
      lab.run := rfl
  unfold beginStep Run.atBoundary
  dsimp only
  by_cases hd : lab.run.activityDirty
  · simp only [hhooks, hd, if_true]
    exact (Run.Follows.refl _).of_activity (by rw [run_measure, run_rebuild lab hd]) |>.trans (hq.event _ _)
  · simp only [hhooks, hd, Bool.false_eq_true, if_false]
    exact Run.Follows.refl _

theorem told_beginStep_announces (ho : h.Observes obs) (lab : Lab τ σ) :
    obs (lab.beginStep h).session =
      obs lab.session ++ if lab.run.activityDirty then [(lab.run.announcement, lab.records)] else [] := by
  have hhooks : (lab.modifySim fun s => { s with pre := s.pre.apply, mid := s.mid.apply, post := s.post.apply }).run =
      lab.run := rfl
  unfold beginStep
  dsimp only
  by_cases hd : lab.run.activityDirty
  · -- the announcement is made with the boundary's records and the rebuilt run
    have hrec : ((lab.modifySim fun s => { s with pre := s.pre.apply, mid := s.mid.apply, post := s.post.apply }).modifyRun
        fun r => { r.rebuildActive with activityDirty := false }).records = lab.records :=
      records_modifyRun _ fun r => records_rebuildActive r
    simp only [hhooks, hd, if_true]
    rw [ho.event, records_measure, hrec, run_rebuild lab hd, Run.active_rebuilt]
    rfl
  · simp only [hhooks, hd, Bool.false_eq_true, if_false, List.append_nil]
    rfl

theorem follows_step (hq : h.Requests) (lab : Lab τ σ) :
    lab.run.atBoundary.Follows (lab.step h).1.run ∧
      ∀ L, lab.engineLab h = some L → lab.run.atBoundary.Follows L.run := by
  let P : Lab τ σ → Prop := fun x => lab.run.atBoundary.Follows x.run
  have hclear : ∀ x, P x → P x.clearForces := fun x hx => hx.of_activity (by rw [run_clearForces])
  have hpert : ∀ x p, P x → P (x.applyPerturbations p) := fun x p hx =>
    hx.of_activity (Run.activity_view.applyPerturbations x p)
  have hhold : ∀ x p, P x → P (x.holdForcedPoses p) := fun x p hx => hx.of_activity (by rw [(holdForcedPoses_keeps x p).1])
  have hctrl : ∀ x, P x → P x.runAllControllers := fun x hx => hx.of_activity (Run.activity_view.runAllControllers x)
  have hphase : ∀ x ph, P x → P (x.runPhase h ph).1 := fun _ ph hx => follows_runPhase hq ph hx
  have hdetect : ∀ x, P x → P x.detectCollisions := fun x hx => hx.of_activity (Run.activity_view.detectCollisions x)
  have hadvance : ∀ x, P x → P x.advance.1 := fun x hx => hx.of_activity (by rw [run_advance])
  have h₀ : P (lab.beginStep h) := follows_beginStep hq lab
  refine ⟨?_, engineLab_cases_after P hclear hpert hhold hctrl hphase hdetect h₀⟩
  rcases step_cases_after P hclear hpert hhold hctrl hphase hdetect hadvance h₀ with ⟨-, hf⟩ | ⟨mid, hmid, heq⟩
  · exact hf
  · rw [heq]
    exact hmid.of_activity (activity_completeStep mid h)

theorem follows_holdRun (hq : h.Requests) (lab : Lab τ σ) : lab.run.Follows (lab.holdRun h).1.run := by
  have hf : lab.run.Follows lab.flush.run := (Run.Follows.refl _).of_activity (activity_flush lab)
  unfold holdRun
  dsimp only
  split
  · exact hf.trans (hq.event _ _)
  · exact (hf.trans (hq.event _ _)).trans (hq.event _ _)

/-- A step from a settled lab hands its engine the clones of the bodies
requested at its boundary, in world order; it ends settled with every body
marked as requested at its boundary; and it tells one announcement of the
requested bodies when a request changed since the last boundary, and
nothing otherwise. -/
theorem step_activity (hq : h.Requests) (ho : h.Observes obs) {lab : Lab τ σ} (hs : lab.run.Settled) :
    (∀ L, lab.engineLab h = some L → L.run.clonesOf L.run.active = lab.run.clonesOf lab.run.requested) ∧
      (lab.step h).1.run.marks = lab.run.wants ∧ (lab.step h).1.run.Settled ∧
      obs (lab.step h).1.session =
        obs lab.session ++ if lab.run.activityDirty then [(lab.run.announcement, lab.records)] else [] := by
  obtain ⟨hstep, hengine⟩ := follows_step hq lab
  obtain ⟨hm, -, -, hset⟩ := hstep.keeps
  refine ⟨fun L hL => ?_, hm.trans hs.marks_atBoundary, hset hs.atBoundary,
    (obs_step ho lab).trans (told_beginStep_announces ho lab)⟩
  obtain ⟨-, ha, hc, -⟩ := (hengine L hL).keeps
  rw [ha, hc, hs.active_atBoundary, Run.clonesOf_atBoundary]

theorem loop_settled (hq : h.Requests) : ∀ (fuel : Nat) (lab : Lab τ σ), lab.run.Settled → (loop h fuel lab).1.run.Settled :=
  loop_induction (fun x => x.run.Settled) (fun x hx => (follows_step hq x).1.keeps.2.2.2 hx.atBoundary)
    (fun x hx => (follows_holdRun hq x).keeps.2.2.2 hx) fun _ hx => hx

end Step

/-! ## The start of a run -/

section Setup

variable {h : Handlers τ σ}

theorem assembly_prepareSlots (cfg : Config) (bi : BodyItem) (clone : BodyId) :
    ∀ (atts : List Attachment) (lab : Lab τ σ) (slots : Array ControllerSlot),
      (prepareSlots cfg bi clone atts lab slots).1.assembly = lab.assembly
  | [], _, _ => rfl
  | att :: rest, lab, slots => by
    have hinit : (initController cfg clone att lab).1.assembly = lab.assembly := by
      unfold initController
      split <;> rfl
    unfold prepareSlots
    dsimp only
    split
    · split <;> exact hinit
    · exact (assembly_prepareSlots cfg bi clone rest _ _).trans hinit

theorem prepareBodies_fresh (cfg : Config) :
    ∀ (pairs : List (Nat × BodyId)) (lab lab' : Lab τ σ) (bodies bodies' : Array SimBody),
      prepareBodies cfg pairs lab bodies = (lab', .ok bodies') →
      (∀ sb ∈ bodies, sb.Fresh lab.assembly) → lab'.assembly = lab.assembly ∧ ∀ sb ∈ bodies', sb.Fresh lab.assembly
  | [], lab, lab', bodies, bodies', h, hb => by
    simp only [prepareBodies, Prod.mk.injEq, Except.ok.injEq] at h
    obtain ⟨rfl, rfl⟩ := h
    exact ⟨rfl, hb⟩
  | (i, c) :: rest, lab, lab', bodies, bodies', h, hb => by
    have hprep := assembly_prepareSlots cfg (lab.items.getD i default) c
      (lab.items.getD i default).controllers.toList lab #[]
    unfold prepareBodies prepareControllers at h
    split at h
    · simp at h
    · -- the body is left out
      rename_i lab₁ heq
      rw [heq] at hprep
      obtain ⟨ha, hb'⟩ := prepareBodies_fresh cfg rest lab₁ lab' bodies bodies' h (by rwa [hprep])
      exact ⟨ha.trans hprep, by rwa [hprep] at hb'⟩
    · -- the body takes part, marked as its clone says
      rename_i lab₁ slots heq
      rw [heq] at hprep
      dsimp only at h
      obtain ⟨ha, hb'⟩ := prepareBodies_fresh cfg rest lab₁ lab' _ bodies' h fun sb hsb => by
        rcases Array.mem_push.1 hsb with hsb | rfl
        · rw [hprep]
          exact hb sb hsb
        · exact ⟨rfl, rfl⟩
      exact ⟨ha.trans hprep, by rwa [hprep] at hb'⟩

theorem resolveDetector_keeps (lab : Lab τ σ) :
    lab.resolveDetector.run.bodies = lab.run.bodies ∧ lab.resolveDetector.run.active = lab.run.active ∧
      lab.resolveDetector.run.activityDirty = lab.run.activityDirty ∧ lab.resolveDetector.assembly = lab.assembly := by
  have hview : lab.resolveDetector.run.bodies = lab.run.bodies ∧
      (lab.resolveDetector.run.active, lab.resolveDetector.run.activityDirty) = (lab.run.active, lab.run.activityDirty) := by
    unfold resolveDetector
    dsimp only
    split
    · exact ⟨rfl, rfl⟩
    · split
      · exact ⟨rfl, rfl⟩
      · split
        · exact ⟨rfl, rfl⟩
        · exact ⟨run_view_modifyRun _ Run.bodies fun _ => rfl,
            run_view_modifyRun _ (fun r => (r.active, r.activityDirty)) fun _ => rfl⟩
  have hasm : lab.resolveDetector.assembly = lab.assembly := by
    unfold resolveDetector
    dsimp only
    split
    · rfl
    · split
      · rfl
      · split <;> rfl
  obtain ⟨hb, hrest⟩ := hview
  simp only [Prod.mk.injEq] at hrest
  exact ⟨hb, hrest.1, hrest.2, hasm⟩

theorem launch_keeps (lab : Lab τ σ) {cfg : Config} {backend : Dynamics.Backend} {reset : Bool} {startFrame : Int}
    {bodies : Array SimBody} (hs : (lab.launch cfg backend reset startFrame bodies).2 = none) :
    (lab.launch cfg backend reset startFrame bodies).1.run = lab.run ∧
      (lab.launch cfg backend reset startFrame bodies).1.assembly = lab.assembly := by
  have hopen : ∀ (x : Lab τ σ) (capacity : Int),
      ((x.openRecordings reset capacity bodies).run, (x.openRecordings reset capacity bodies).assembly) =
        (x.run, x.assembly) := by
    intro x capacity
    unfold openRecordings
    rw [← Array.foldl_toList]
    refine foldl_keeps (fun y : Lab τ σ => (y.run, y.assembly)) _ ?_ _ _
    exact fun _ _ => rfl
  unfold launch at hs ⊢
  dsimp only at hs ⊢
  rcases hb : backend.begin (if bodies.isEmpty then none else some cfg.timeStep) with msg | ⟨bk, _ | _⟩
  · simp only [hb] at hs
    simp at hs
  · simp only [hb] at hs
    simp at hs
  · simp only [Bool.not_true, Bool.false_eq_true, ↓reduceIte]
    exact Prod.mk.inj (hopen _ _)

/-- A setup that goes through makes its run of the bodies it prepares,
each marked as requested and the marked ones listed, with no change
pending, and leaves the assembly as the preparation left it. -/
theorem setup_made {lab : Lab τ σ} {reset : Bool} (hs : (lab.setup reset).2 = none) :
    ∃ (cfg : Config) (pairs : List (Nat × BodyId)) (lab₁ lab₂ : Lab τ σ) (bodies : Array SimBody) (r : Run),
      prepareBodies cfg pairs lab₁ #[] = (lab₂, .ok bodies) ∧ r.bodies = bodies ∧ r.activityDirty = false ∧
      (lab.setup reset).1.run.bodies = r.rebuildActive.bodies ∧ (lab.setup reset).1.run.active = r.rebuildActive.active ∧
      (lab.setup reset).1.run.activityDirty = false ∧ (lab.setup reset).1.assembly = lab₂.assembly := by
  -- past the checks, the setup is `setupWith`
  have hwith : ∀ {cfg backend} {L : Lab τ σ}, lab.setupWith cfg backend reset = (L, none) →
      ∃ (cfg : Config) (pairs : List (Nat × BodyId)) (lab₁ lab₂ : Lab τ σ) (bodies : Array SimBody) (r : Run),
        prepareBodies cfg pairs lab₁ #[] = (lab₂, .ok bodies) ∧ r.bodies = bodies ∧ r.activityDirty = false ∧
        L.run.bodies = r.rebuildActive.bodies ∧ L.run.active = r.rebuildActive.active ∧
        L.run.activityDirty = false ∧ L.assembly = lab₂.assembly := by
    intro cfg backend L hs
    unfold setupWith at hs
    dsimp only at hs
    split at hs
    · simp at hs
    split at hs
    · simp at hs
    rename_i lab₂ bodies heqb
    obtain ⟨hrun, hasm⟩ := launch_keeps _ (congrArg Prod.snd hs)
    obtain ⟨hb, ha, hd, hasm'⟩ := resolveDetector_keeps (lab₂.modifySim fun s => { s with run := some _ })
    rw [hs] at hrun hasm
    dsimp only at hrun hasm
    rw [hrun, hasm, hb, ha, hd, hasm']
    exact ⟨cfg, _, _, lab₂, bodies, _, heqb, rfl, rfl, rfl, rfl, rfl, rfl⟩
  rcases hp : lab.setup reset with ⟨L, f⟩
  rw [hp] at hs
  dsimp only at hs ⊢
  subst hs
  unfold setup at hp
  dsimp only at hp
  split at hp
  · simp at hp
  · simp at hp
  · split at hp
    · exact hwith hp
    · simp at hp

theorem setup_activity {lab : Lab τ σ} {reset : Bool} (hs : (lab.setup reset).2 = none) :
    (lab.setup reset).1.run.Settled ∧ (lab.setup reset).1.run.activityDirty = false ∧
      (lab.setup reset).1.run.Fresh (lab.setup reset).1.assembly := by
  obtain ⟨cfg, pairs, lab₁, lab₂, bodies, r, heqb, hbodies, hdirty, hb, ha, hd, hasm⟩ := setup_made hs
  obtain ⟨hasm₁, hfresh⟩ := prepareBodies_fresh cfg _ _ _ _ _ heqb (by simp)
  have hact : (lab.setup reset).1.run.activity = r.rebuildActive.activity := by
    simp only [Run.activity, hb, ha, hd, Prod.mk.injEq, true_and]
    exact hdirty.symm
  rw [hasm, hasm₁]
  -- the run made is rebuilt from bodies that start as their clones say, with no change pending
  exact ⟨(Run.Settled.rebuildActive _).of_activity hact, hd,
    (Run.Fresh.rebuildActive (hbodies ▸ hfresh)).of_activity hact⟩

theorem activity_opened (lab : Lab τ σ) (reset : Bool) : (lab.opened reset).run.activity = lab.run.activity := by
  unfold opened
  dsimp only
  split
  · exact run_view_modifyRun _ Run.activity fun _ => rfl
  · rfl

theorem started_settled (hq : h.Requests) {lab : Lab τ σ} (hs : lab.run.Settled) (reset : Bool) (ev : Event) :
    (h.event ev (lab.opened reset)).run.Settled :=
  ((hq.event ev _).keeps.2.2.2 (hs.of_activity (activity_opened lab reset)))

end Setup

/-! ## Requests -/

section Requests

variable {h : Handlers τ σ} {obs : σ → List (Event × Records)}

theorem session_setActive (lab : Lab τ σ) (k : Nat) (on : Bool) : (lab.setActive k on).session = lab.session := by
  unfold setActive
  split
  · split <;> rfl
  · rfl

theorem setActive_activity (lab : Lab τ σ) (k : Nat) (on : Bool) :
    (lab.setActive k on).run.wants = lab.run.wants.setIfInBounds k on ∧
      (lab.setActive k on).run.activityDirty =
        (lab.run.activityDirty || (lab.run.bodies[k]?.map (·.wantActive != on)).getD false) ∧
      (lab.setActive k on).run.marks = lab.run.marks ∧ (lab.setActive k on).run.active = lab.run.active ∧
      (lab.run.Settled → (lab.setActive k on).run.Settled) := by
  obtain ⟨hm, ha, -⟩ := lab.run.request_keeps k on
  rw [run_setActive]
  exact ⟨Run.wants_request _ k on, Run.activityDirty_request _ k on, hm, ha, fun hs => hs.request k on⟩

/-- A request undone before the boundary still counts as a change: from a
settled lab with no change pending, asking a body for the opposite of its
request and then for its request again leaves the requested list as the
active list was, and the next step announces it all the same. -/
theorem undone_request_is_announced (hq : h.Requests) (ho : h.Observes obs) {lab : Lab τ σ}
    (hs : lab.run.Settled) (hd : lab.run.activityDirty = false) {k : Nat} {sb : SimBody}
    (hk : lab.run.bodies[k]? = some sb) :
    let lab' := (lab.setActive k (!sb.wantActive)).setActive k sb.wantActive
    lab'.run.active = lab.run.active ∧ lab'.run.announcement.active = lab.run.active ∧
      obs (lab'.step h).1.session = obs lab'.session ++ [(lab'.run.announcement, lab'.records)] := by
  intro lab'
  obtain ⟨hw₁, hd₁, -, ha₁, hs₁⟩ := lab.setActive_activity k (!sb.wantActive)
  obtain ⟨hw₂, hd₂, -, ha₂, hs₂⟩ := (lab.setActive k (!sb.wantActive)).setActive_activity k sb.wantActive
  -- the first request changes the body's request, so a change is pending
  have hdirty : lab'.run.activityDirty = true := by
    rw [hd₂, hd₁, hk]
    simp
  -- the second puts it back
  have hk' : lab.run.wants[k]? = some sb.wantActive := by simp [Run.wants, hk]
  have hwants : lab'.run.wants = lab.run.wants := by
    rw [hw₂, hw₁]
    apply Array.ext_getElem?
    intro i
    simp only [Array.getElem?_setIfInBounds, Array.size_setIfInBounds]
    by_cases hi : k = i
    · subst hi
      obtain ⟨hlt, hget⟩ := Array.getElem?_eq_some_iff.1 hk'
      simp [hlt, hget]
    · simp [hi]
  have hrequested : lab'.run.requested = lab.run.active :=
    (Run.requested_eq_of_wants hwants).trans (hs.active_eq_requested hd).symm
  refine ⟨ha₂.trans ha₁, hrequested, ?_⟩
  obtain ⟨-, -, -, hobs⟩ := Lab.step_activity hq ho (hs₂ (hs₁ hs))
  rw [hobs, hdirty, if_pos rfl]

end Requests

end Lab

/-! ## The contract -/

/-- What a driver whose hooks and observers change which bodies take part
only by requests, and whose observer writes down what it is told, can rely
on. -/
structure ActivityContract (h : Handlers τ σ) (obs : σ → List (Event × Records)) : Prop where
  /-- A run starts with every body marked and requested exactly when its
  clone is not a static model, with no change pending, and its first step is
  taken from a settled run. -/
  start : ∀ (lab : Lab τ σ) (reset : Bool), (lab.setup reset).2 = none →
    (lab.setup reset).1.run.Fresh (lab.setup reset).1.assembly ∧ (lab.setup reset).1.run.activityDirty = false ∧
      ∀ ev, (h.event ev ((lab.setup reset).1.opened reset)).run.Settled
  /-- A request records the latest value asked for and marks a change when
  the value is new; it changes no mark. -/
  request : ∀ (lab : Lab τ σ) (k : Nat) (on : Bool),
    (lab.setActive k on).run.wants = lab.run.wants.setIfInBounds k on ∧
      (lab.setActive k on).run.activityDirty =
        (lab.run.activityDirty || (lab.run.bodies[k]?.map (·.wantActive != on)).getD false) ∧
      (lab.setActive k on).run.marks = lab.run.marks ∧ (lab.run.Settled → (lab.setActive k on).run.Settled)
  /-- A hold changes no mark. -/
  hold : ∀ lab : Lab τ σ, (lab.holdRun h).1.run.marks = lab.run.marks ∧
    (lab.run.Settled → (lab.holdRun h).1.run.Settled)
  /-- Every lab of a run is settled. -/
  loop : ∀ (fuel : Nat) (lab : Lab τ σ), lab.run.Settled → (Lab.loop h fuel lab).1.run.Settled
  /-- A step hands its engine the clones of the bodies requested at its
  boundary, in world order; it marks every body as requested there; and it
  announces the requested bodies exactly when a request changed since the
  last boundary, which it did whenever the list changes. -/
  step : ∀ lab : Lab τ σ, lab.run.Settled →
    (∀ L, lab.engineLab h = some L → L.run.clonesOf L.run.active = lab.run.clonesOf lab.run.requested) ∧
      (lab.step h).1.run.marks = lab.run.wants ∧
      obs (lab.step h).1.session =
        obs lab.session ++ (if lab.run.activityDirty then [(lab.run.announcement, lab.records)] else []) ∧
      (lab.run.requested ≠ lab.run.active → lab.run.activityDirty = true)
  /-- A request undone before the boundary is announced all the same, with
  the list unchanged. -/
  undone : ∀ (lab : Lab τ σ) (k : Nat) (sb : SimBody), lab.run.Settled → lab.run.activityDirty = false →
    lab.run.bodies[k]? = some sb →
    let lab' := (lab.setActive k (!sb.wantActive)).setActive k sb.wantActive
    lab'.run.active = lab.run.active ∧ lab'.run.announcement.active = lab.run.active ∧
      obs (lab'.step h).1.session = obs lab'.session ++ [(lab'.run.announcement, lab'.records)]

/-- Bodies take part as last requested: a driver whose hooks and observers
change which bodies take part only by requests, and whose observer writes
down what it is told, has the activity contract. -/
theorem bodies_take_part_as_last_requested {h : Handlers τ σ} {obs : σ → List (Event × Records)}
    (hq : h.Requests) (ho : h.Observes obs) : ActivityContract h obs where
  start lab reset hs := by
    obtain ⟨hset, hd, hf⟩ := Lab.setup_activity hs
    exact ⟨hf, hd, Lab.started_settled hq hset reset⟩
  request lab k on := by
    obtain ⟨hw, hd, hm, -, hs⟩ := lab.setActive_activity k on
    exact ⟨hw, hd, hm, hs⟩
  hold lab := by
    obtain ⟨hm, -, -, hs⟩ := (Lab.follows_holdRun hq lab).keeps
    exact ⟨hm, hs⟩
  loop := Lab.loop_settled hq
  step lab hs := by
    obtain ⟨he, hm, -, hobs⟩ := Lab.step_activity hq ho hs
    exact ⟨he, hm, hobs, hs.dirty_of_ne⟩
  undone _ _ _ hs hd hk := Lab.undone_request_is_announced hq ho hs hd hk

/-- A driver whose hooks ask for a body to take part or not, and whose
observer writes down every event with the records it sees. -/
def requestingObserver : Handlers (Nat × Bool) (List (Event × Records)) where
  hook _ task lab := (lab.setActive task.1 task.2, none)
  event ev lab := { lab with session := lab.session ++ [(ev, lab.records)] }

theorem requestingObserver_requests : requestingObserver.Requests where
  hook _ task lab := ⟨[task], congrArg Run.activity (Lab.run_setActive lab task.1 task.2)⟩
  event _ lab := Run.Follows.refl lab.run

theorem requestingObserver_observes : requestingObserver.Observes id where
  event _ _ := rfl
  hook _ task lab := Lab.session_setActive lab task.1 task.2

theorem requestingObserver_bodies_take_part_as_last_requested :
    requestingObserver.Requests ∧ requestingObserver.Observes id ∧ ActivityContract requestingObserver id :=
  ⟨requestingObserver_requests, requestingObserver_observes,
    bodies_take_part_as_last_requested requestingObserver_requests requestingObserver_observes⟩

end Multibody.Sim
