import Multibody.Proofs.Lifecycle.Trail

/-!
# The lifecycle protocol

Every start tells an observer nothing, when it fails, or one word of

    Started (BodyListUpdated | Paused Resumed)* [Paused] Finished

(`RunWord`), with frames that never decrease, Started at the start frame and
Finished at the frame the simulator keeps (`Lab.start_tells_one_run_word`).
This holds whatever the handlers do while they keep the published records.
Each part is read off the run's `RunTrail`.
-/

namespace Multibody.Sim

variable {τ σ : Type}

/-- The kinds of event a run tells between Started and Finished. -/
inductive Midst : List EventKind → Prop
  /-- nothing -/
  | nil : Midst []
  /-- `Paused`, ending the run held or stopped -/
  | held : Midst [.paused]
  /-- `BodyListUpdated`, then more -/
  | announced {ks : List EventKind} : Midst ks → Midst (.bodyListUpdated :: ks)
  /-- `Paused Resumed`, then more -/
  | resumed {ks : List EventKind} : Midst ks → Midst (.paused :: .resumed :: ks)

/-- The kinds of event one run tells: Started, the events between, Finished. -/
def RunWord (ks : List EventKind) : Prop :=
  ∃ mid, Midst mid ∧ ks = .started :: mid ++ [.finished]

namespace Records

theorem frame_le_of_step {R R' : Records} (hR : R' = R ∨ R' = R.advanceFrame ∨ R' = R.advanceFrame.flush) :
    R.frame ≤ R'.frame := by
  rcases hR with rfl | rfl | rfl
  · exact Int.le_refl _
  · exact frame_le_advanceFrame R
  · rw [frame_flush]
    exact frame_le_advanceFrame R

@[simp] theorem lastFrame_finish (R : Records) : R.finish.lastFrame = R.frame := rfl

end Records

namespace Trail

variable {R R' : Records} {m : List (Event × Records)}

theorem midst (ht : Trail R m R') : Midst (m.map (·.1.kind)) := by
  induction ht with
  | stop => exact .nil
  | announce hk _ _ ih =>
    rw [List.map_cons, hk]
    exact .announced ih
  | step _ _ ih => exact ih
  | held hk _ =>
    rw [List.map_singleton, hk]
    exact .held
  | resumed hk hk' _ _ _ ih =>
    simp only [List.map_cons, hk, hk']
    exact .resumed ih

theorem frame_le (ht : Trail R m R') : R.frame ≤ R'.frame := by
  induction ht with
  | stop => exact Int.le_refl _
  | announce _ _ _ ih => exact ih
  | step hR _ ih => exact Int.le_trans (Records.frame_le_of_step hR) ih
  | held => exact Int.le_of_eq (Records.frame_flush _).symm
  | resumed _ _ _ _ _ ih => rwa [Records.frame_flush] at ih

theorem frames_between (ht : Trail R m R') : ∀ e ∈ m, R.frame ≤ e.1.frame ∧ e.1.frame ≤ R'.frame := by
  induction ht with
  | stop => simp
  | @announce R R' m ev _ hf rest ih =>
    intro e he
    rcases List.mem_cons.1 he with rfl | he
    · rw [hf]
      exact ⟨Int.le_refl _, rest.frame_le⟩
    · exact ih e he
  | step hR _ ih =>
    intro e he
    exact ⟨Int.le_trans (Records.frame_le_of_step hR) (ih e he).1, (ih e he).2⟩
  | @held R ev _ hf =>
    intro e he
    rw [List.mem_singleton] at he
    subst he
    simp [hf]
  | @resumed R R' m ev ev' _ _ hf hf' rest ih =>
    have hend := rest.frame_le
    rw [Records.frame_flush] at hend ih
    intro e he
    rcases List.mem_cons.1 he with rfl | he
    · rw [hf]
      exact ⟨Int.le_refl _, hend⟩
    rcases List.mem_cons.1 he with rfl | he
    · rw [hf']
      exact ⟨Int.le_refl _, hend⟩
    · exact ih e he

theorem frames_sorted (ht : Trail R m R') : (m.map (·.1.frame)).Pairwise (· ≤ ·) := by
  induction ht with
  | stop => exact .nil
  | @announce R R' m ev _ hf rest ih =>
    refine List.pairwise_cons.2 ⟨fun f hfm => ?_, ih⟩
    obtain ⟨e, he, rfl⟩ := List.mem_map.1 hfm
    show ev.frame ≤ e.1.frame
    rw [hf]
    exact (rest.frames_between e he).1
  | step _ _ ih => exact ih
  | held => exact List.pairwise_singleton _ _
  | @resumed R R' m ev ev' _ _ hf hf' rest ih =>
    -- both events of the hold are at the frame held, the rest after it
    have hafter : ∀ f ∈ m.map (·.1.frame), R.frame ≤ f := by
      intro f hfm
      obtain ⟨e, he, rfl⟩ := List.mem_map.1 hfm
      simpa using (rest.frames_between e he).1
    rw [List.map_cons, List.map_cons, List.pairwise_cons, List.pairwise_cons]
    refine ⟨fun f hfm => ?_, fun f hfm => ?_, ih⟩
    · rcases List.mem_cons.1 hfm with rfl | hfm
      · exact Int.le_of_eq (hf.trans hf'.symm)
      · rw [hf]
        exact hafter f hfm
    · rw [hf']
      exact hafter f hfm

end Trail

namespace RunTrail

variable {R₀ R : Records} {told : List (Event × Records)} {fin : FinishInfo}

theorem word (ht : RunTrail R₀ told R fin) : RunWord (told.map (·.1.kind)) := by
  obtain ⟨hk, -, trail, hk', -, -⟩ := ht
  exact ⟨_, trail.midst, by simp [hk, hk']⟩

theorem frames_sorted (ht : RunTrail R₀ told R fin) : (told.map (·.1.frame)).Pairwise (· ≤ ·) := by
  cases ht with
  | @run R m ev ev' _ hf trail _ hf' _ =>
  have hbetween := trail.frames_between
  rw [List.map_append, List.pairwise_append, List.map_cons, List.pairwise_cons]
  refine ⟨⟨fun f hfm => ?_, trail.frames_sorted⟩, List.pairwise_singleton _ _, fun f hfm f' hf'm => ?_⟩
  · -- Started is at the start frame, before the loop's events
    obtain ⟨e, he, rfl⟩ := List.mem_map.1 hfm
    rw [hf]
    exact (hbetween e he).1
  · -- Finished is at the frame the loop ends at, after everything
    rw [List.map_singleton, List.mem_singleton] at hf'm
    rw [hf'm, hf']
    rcases List.mem_cons.1 hfm with rfl | hfm
    · rw [hf]
      exact trail.frame_le
    · obtain ⟨e, he, rfl⟩ := List.mem_map.1 hfm
      exact (hbetween e he).2

theorem head_frame (ht : RunTrail R₀ told R fin) : told.head?.map (·.1.frame) = some R₀.frame := by
  obtain ⟨-, hf, -, -, -, -⟩ := ht
  simp [hf]

theorem finished_last (ht : RunTrail R₀ told R fin) :
    ∃ ev, told.getLast? = some (ev, R) ∧ ev.kind = .finished ∧ ev.frame = ev.finish.frame ∧ ev.finish = fin ∧
      ev.frame = R.lastFrame ∧ R.run = none := by
  obtain ⟨-, -, -, hk', hf', hfin⟩ := ht
  refine ⟨_, ?_, hk', hf'.trans hfin.symm, rfl, by simp [hf'], rfl⟩
  rw [List.getLast?_concat]

end RunTrail

namespace Lab

variable {h : Handlers τ σ} {obs : σ → List (Event × Records)}

theorem run_eq_none_of_records (lab : Lab τ σ) (hr : lab.records.run = none) : lab.sim.run = none := by
  simpa [records] using hr

theorem frame_setup (lab : Lab τ σ) {reset : Bool} (hs : (lab.setup reset).2 = none) :
    (lab.setup reset).1.records.frame = if reset then 0 else lab.sim.lastFrame := by
  obtain ⟨-, its, -, hR⟩ := lab.records_setup hs
  rw [hR]
  rfl

/-- The lifecycle protocol: every start tells an observer registered
throughout nothing when it fails, and else one word `Started (BodyListUpdated
| Paused Resumed)* [Paused] Finished`, appended to what it was told before,
with frames that never decrease, Started at the start frame, and Finished at
the frame of the finish it reports, which is the finish and the last frame
the simulator keeps when the start returns, with no run current. -/
theorem start_tells_one_run_word (ho : h.Observes obs) (hh : h.KeepsRecords)
    (hfin : ∀ ev (lab : Lab τ σ), (h.event ev lab).sim.lastFinish = lab.sim.lastFinish)
    (fuel : Nat) (reset : Bool) (lab : Lab τ σ) :
    let L := (lab.start h fuel reset).1
    ∃ told, obs L.session = obs lab.session ++ told ∧
      ((lab.start h fuel reset).2.isSome → told = []) ∧
      ((lab.start h fuel reset).2 = none →
        RunWord (told.map (·.1.kind)) ∧ (told.map (·.1.frame)).Pairwise (· ≤ ·) ∧
        told.head?.map (·.1.frame) = some (if reset then 0 else lab.sim.lastFrame) ∧
        ∃ ev ∈ told.getLast?, ev.1.kind = .finished ∧ ev.1.frame = ev.1.finish.frame ∧
          ev.1.finish = L.sim.lastFinish ∧ ev.1.frame = L.sim.lastFrame ∧ L.sim.run = none) := by
  intro L
  cases hs : (lab.start h fuel reset).2 with
  | some f =>
    refine ⟨[], ?_, fun _ => rfl, (fun hn => by cases hn)⟩
    rw [List.append_nil]
    exact obs_start_of_failure lab (by simp [hs])
  | none =>
    obtain ⟨told, fin, hobs, ht, hlast⟩ := lab.start_trail ho hh hs
    obtain ⟨ev, hev, hk, hf, hfin', hframe, hrun⟩ := ht.finished_last
    have hstart := ht.head_frame
    rw [lab.frame_setup (setup_ok_of_start lab hs)] at hstart
    refine ⟨told, hobs, (fun hn => by cases hn), fun _ => ⟨ht.word, ht.frames_sorted, hstart, ?_⟩⟩
    refine ⟨(ev, L.records), hev, hk, hf, hfin'.trans (hlast hfin).symm, hframe, ?_⟩
    exact L.run_eq_none_of_records hrun

end Lab

/-- A driver that writes down every event with the records it sees, holds
the run as soon as it starts and resumes every hold at once. -/
def pausingObserver : Handlers Unit (List (Event × Records)) where
  hook _ _ lab := (lab, none)
  event ev lab :=
    let lab := { lab with session := lab.session ++ [(ev, lab.records)] }
    match ev.kind with
    | .started => lab.setState .paused
    | .paused => lab.setState .running
    | _ => lab

theorem pausingObserver_observes : pausingObserver.Observes id where
  event ev lab := by
    simp only [pausingObserver]
    split <;> rfl
  hook _ _ _ := rfl

theorem pausingObserver_keepsRecords : pausingObserver.KeepsRecords := by
  refine ⟨fun _ _ _ => rfl, fun ev lab => ?_⟩
  simp only [pausingObserver]
  split <;> rfl

theorem pausingObserver_keepsFinish (ev : Event) (lab : Lab Unit (List (Event × Records))) :
    (pausingObserver.event ev lab).sim.lastFinish = lab.sim.lastFinish := by
  simp only [pausingObserver]
  split <;> rfl

/-- The lab of one arm, observed from an empty log. -/
def observedArmLab : Lab Unit (List (Event × Records)) := { armLab with session := [] }

theorem observedArmLab_start_tells_one_run_word :
    pausingObserver.Observes id ∧ pausingObserver.KeepsRecords ∧
      (∀ ev (lab : Lab Unit (List (Event × Records))),
        (pausingObserver.event ev lab).sim.lastFinish = lab.sim.lastFinish) ∧
      let L := (observedArmLab.start pausingObserver 3 true).1
      ∃ told, id L.session = id observedArmLab.session ++ told ∧
        ((observedArmLab.start pausingObserver 3 true).2.isSome → told = []) ∧
        ((observedArmLab.start pausingObserver 3 true).2 = none →
          RunWord (told.map (·.1.kind)) ∧ (told.map (·.1.frame)).Pairwise (· ≤ ·) ∧
          told.head?.map (·.1.frame) = some (if true then 0 else observedArmLab.sim.lastFrame) ∧
          ∃ ev ∈ told.getLast?, ev.1.kind = .finished ∧ ev.1.frame = ev.1.finish.frame ∧
            ev.1.finish = L.sim.lastFinish ∧ ev.1.frame = L.sim.lastFrame ∧ L.sim.run = none) :=
  ⟨pausingObserver_observes, pausingObserver_keepsRecords, pausingObserver_keepsFinish,
    Lab.start_tells_one_run_word pausingObserver_observes pausingObserver_keepsRecords pausingObserver_keepsFinish
      3 true observedArmLab⟩

end Multibody.Sim
