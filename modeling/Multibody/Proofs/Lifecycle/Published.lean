import Multibody.Proofs.Lifecycle.Protocol

/-!
# Lifecycle events come after the flush of their frame

When a run with some body taking part tells Started, Paused, Resumed or
Finished at frame `F`, the published records show `F`
(`Lab.lifecycle_events_follow_the_flush`).  With no body nothing is
flushed, and BodyListUpdated has no flush of its own.  The proof follows
`Records.Publishing` along the run's `RunTrail` (`Publishing.flush_frame`).
-/

namespace Multibody.Sim

variable {τ σ : Type}

namespace Records

variable {R : Records} {S : RunStart} {F last : Int}

/-- The records `R` show frame `F` of the run of `S`: the simulation frame
is `F` when some body takes part, and once the run has stepped past its
start every item taking part has the state of frame `F`. -/
def Shows (R : Records) (S : RunStart) (F : Int) : Prop :=
  (S.items ≠ [] → R.simFrame = F) ∧ (S.start < F → ∀ i ∈ S.items, (R.items.getD i default).state = some F)

theorem Publishing.shows (hp : R.Publishing S F) : R.Shows S F :=
  ⟨hp.simFrame, fun hlt i hi => (hp.published i hi).state hlt⟩

theorem Shows.finish (hs : R.Shows S F) : R.finish.Shows S F := hs

theorem Publishing.flush_frame (hp : R.Publishing S last) : R.flush.Publishing S R.frame := by
  obtain ⟨F, hF, hframe⟩ := hp.flush
  have hRF : R.frame = F := by
    rw [← frame_flush]
    simp [frame, hframe]
  rw [hRF]
  exact hF

end Records

namespace Trail

variable {S : RunStart} {R R' : Records} {m : List (Event × Records)}

/-- Along the loop of a run that publishes as `S` says, every event but an
announcement of the body list is told with records published up to its
frame, and the run still publishes as `S` says at its end. -/
theorem shows (ht : Trail R m R') : (∃ last, R.Publishing S last) →
    (∀ e ∈ m, e.1.kind ≠ .bodyListUpdated → e.2.Shows S e.1.frame) ∧ ∃ last, R'.Publishing S last := by
  induction ht with
  | stop => exact fun hp => ⟨by simp, hp⟩
  | @announce R R' m ev hk _ _ ih =>
    intro hp
    obtain ⟨hm, hend⟩ := ih hp
    refine ⟨fun e he hne => ?_, hend⟩
    rcases List.mem_cons.1 he with rfl | he
    · exact absurd hk hne
    · exact hm e he hne
  | step hR _ ih =>
    rintro ⟨last, hl⟩
    apply ih
    rcases hR with rfl | rfl | rfl
    · exact ⟨last, hl⟩
    · exact ⟨last, hl.advanceFrame⟩
    · exact ⟨_, hl.advanceFrame.flush_frame⟩
  | @held R ev _ hf =>
    rintro ⟨last, hl⟩
    refine ⟨fun e he _ => ?_, ⟨_, hl.flush_frame⟩⟩
    rw [List.mem_singleton] at he
    subst he
    rw [hf]
    exact hl.flush_frame.shows
  | @resumed R R' m ev ev' _ _ hf hf' _ ih =>
    rintro ⟨last, hl⟩
    -- both events of the hold are told with the buffers just published
    have hshow : R.flush.Shows S R.frame := hl.flush_frame.shows
    obtain ⟨hm, hend⟩ := ih ⟨_, hl.flush_frame⟩
    refine ⟨fun e he hne => ?_, hend⟩
    rcases List.mem_cons.1 he with rfl | he
    · rw [hf]
      exact hshow
    rcases List.mem_cons.1 he with rfl | he
    · rw [hf']
      exact hshow
    · exact hm e he hne

end Trail

/-- A whole run that starts publishing as `S` says, at its start frame:
Started shows the start frame, the loop's events but the announcements of
the body list show their frame, and Finished shows the frame the run ended
at, published. -/
theorem RunTrail.shows {S : RunStart} {R₀ R : Records} {told : List (Event × Records)} {fin : FinishInfo}
    (ht : RunTrail R₀ told R fin) (h₀ : R₀.Publishing S S.start) (hframe : R₀.frame = S.start) :
    ∀ e ∈ told, e.1.kind ≠ .bodyListUpdated → e.2.Shows S e.1.frame := by
  cases ht with
  | @run R m ev ev' _ hf trail _ hf' _ =>
  obtain ⟨hm, last, hend⟩ := trail.shows ⟨_, h₀⟩
  intro e he hne
  rcases List.mem_append.1 he with he | he
  · rcases List.mem_cons.1 he with rfl | he
    · -- Started: nothing is buffered yet
      rw [hf, hframe]
      exact h₀.shows
    · exact hm e he hne
  · -- Finished: the end of the run publishes and closes it
    rw [List.mem_singleton] at he
    subst he
    rw [hf']
    exact hend.flush_frame.shows.finish

namespace Lab

variable {h : Handlers τ σ} {obs : σ → List (Event × Records)}

/-- Flush happens before notification: in a run in which some body takes
part, each of Started, Paused, Resumed and Finished is told with the
simulation frame at the frame it carries, and, once that frame is past the
start frame, with every item taking part at the state of that frame.  A
start that fails tells nothing. -/
theorem lifecycle_events_follow_the_flush (ho : h.Observes obs) (hh : h.KeepsRecords) (fuel : Nat) (reset : Bool)
    (lab : Lab τ σ) (hworld : lab.world.bodies.toList.Nodup) (hrange : ∀ i ∈ lab.world.bodies, i < lab.items.size)
    (hlast : 0 ≤ lab.sim.lastFrame) :
    let f0 := if reset then 0 else lab.sim.lastFrame
    let taking := (lab.setup reset).1.run.bodies.toList.map (·.item)
    ∃ told, obs (lab.start h fuel reset).1.session = obs lab.session ++ told ∧
      ∀ e ∈ told, e.1.kind ≠ .bodyListUpdated →
        (taking ≠ [] → e.2.simFrame = e.1.frame) ∧
        (f0 < e.1.frame → ∀ i ∈ taking, (e.2.items.getD i default).state = some e.1.frame) := by
  intro f0 taking
  cases hs : (lab.start h fuel reset).2 with
  | some f =>
    refine ⟨[], ?_, by simp⟩
    rw [List.append_nil]
    exact obs_start_of_failure lab (by simp [hs])
  | none =>
    have hsetup := setup_ok_of_start lab hs
    obtain ⟨S, -, -, hstart, -, htaking, h₀⟩ := lab.publishing_setup hworld hrange hlast hsetup
    obtain ⟨told, fin, hobs, ht, -⟩ := lab.start_trail ho hh hs
    have hframe : (lab.setup reset).1.records.frame = S.start := by
      rw [lab.frame_setup hsetup, hstart]
    refine ⟨told, hobs, fun e he hne => ?_⟩
    obtain ⟨hsim, hitems⟩ := ht.shows h₀ hframe e he hne
    refine ⟨fun hne' => hsim (htaking ▸ hne'), fun hlt i hi => hitems (hstart ▸ hlt) i (htaking ▸ hi)⟩

end Lab

theorem observedArmLab_lifecycle_events_follow_the_flush :
    pausingObserver.Observes id ∧ pausingObserver.KeepsRecords ∧ observedArmLab.world.bodies.toList.Nodup ∧
      (∀ i ∈ observedArmLab.world.bodies, i < observedArmLab.items.size) ∧ 0 ≤ observedArmLab.sim.lastFrame ∧
      let f0 := if true then 0 else observedArmLab.sim.lastFrame
      let taking := (observedArmLab.setup true).1.run.bodies.toList.map (·.item)
      ∃ told, id (observedArmLab.start pausingObserver 3 true).1.session = id observedArmLab.session ++ told ∧
        ∀ e ∈ told, e.1.kind ≠ .bodyListUpdated →
          (taking ≠ [] → e.2.simFrame = e.1.frame) ∧
          (f0 < e.1.frame → ∀ i ∈ taking, (e.2.items.getD i default).state = some e.1.frame) := by
  have hw : observedArmLab.world.bodies.toList.Nodup := by decide
  have hr : ∀ i ∈ observedArmLab.world.bodies, i < observedArmLab.items.size := by decide
  have hl : 0 ≤ observedArmLab.sim.lastFrame := by decide
  exact ⟨pausingObserver_observes, pausingObserver_keepsRecords, hw, hr, hl,
    Lab.lifecycle_events_follow_the_flush pausingObserver_observes pausingObserver_keepsRecords 3 true observedArmLab
      hw hr hl⟩

end Multibody.Sim
