import Multibody.Proofs.Recording.Invariant
import Multibody.Proofs.Body.Restore

/-!
# The recording and publication contract of a run

A run from frame `f0` to `F` leaves every item with the state of frame `F`,
the frames `f0 + 1 .. F` as the recording mode keeps them, and each listener
told every publication's newest frame (`run_publishes_its_frames`), whatever
the flush schedule, pauses and handlers, as long as they keep the published
records (`Handlers.KeepsRecords`), for every world of distinct items
(`World.nodup_addBody`).
-/

namespace Multibody.Sim

variable {τ σ : Type}

theorem World.nodup_addBody {w w' : World} {items : Array BodyItem} {i : Nat}
    (hw : w.bodies.toList.Nodup) (h : w.addBody items i = .ok w') : w'.bodies.toList.Nodup := by
  unfold addBody at h
  dsimp only at h
  split at h
  · split at h <;> simp at h
  · rename_i hfind
    simp only [Except.ok.injEq] at h
    subst h
    have hi : i ∉ w.bodies.toList := by
      intro hmem
      have := Array.find?_eq_none.1 hfind i (Array.mem_toList_iff.1 hmem)
      simp at this
    rw [Array.toList_push, List.nodup_append]
    refine ⟨hw, by simp, ?_⟩
    intro a ha b hb hab
    rw [List.mem_singleton] at hb
    subst hb
    exact hi (hab ▸ ha)

theorem Config.tailFrames_pos {cfg : Config} (hv : cfg.validate = none) (ht : cfg.recording = .tail) :
    0 < cfg.tailFrames := by
  refine Int.lt_of_not_ge fun hle => ?_
  have hne : cfg.problems ≠ [] := by
    simp [Config.problems, ht, hle, show (RecordingMode.tail == RecordingMode.tail) = true from rfl]
  unfold validate Failure.join? at hv
  split at hv
  · exact hne ‹_›
  · simp at hv

namespace Lab

variable (lab : Lab τ σ)

theorem setup_ok_of_start {h : Handlers τ σ} {fuel : Nat} {reset : Bool}
    (hs : (lab.start h fuel reset).2 = none) : (lab.setup reset).2 = none := by
  unfold start at hs
  split at hs
  · simp at hs
  · dsimp only at hs
    rcases hsetup : lab.setup reset with ⟨lab₁, _ | f⟩
    · rfl
    · rw [hsetup] at hs
      simp at hs

theorem records_items_getD {i : Nat} (hi : i < lab.items.size) :
    (lab.items.getD i default).records = lab.records.items.getD i default := by
  simp [records, hi]

theorem items_run_of_records {rr : RunRecords} (hr : lab.records.run = some rr) :
    lab.run.bodies.toList.map (·.item) = rr.bodies.map (·.item) := by
  cases hrun : lab.sim.run with
  | none => simp [records, hrun] at hr
  | some r =>
    simp only [records, hrun, Option.map_some, Option.some.injEq] at hr
    subst hr
    simp [run, hrun, Run.records, SimBody.records, Function.comp_def]

end Lab

/-- A setup that goes through, in a world of distinct, existing items, opens
a run that publishes as `Records.Publishing` says: in the simulator's
settings, from the start frame it was asked for, to the items of the bodies
it took up. -/
theorem Lab.publishing_setup (lab : Lab τ σ) {reset : Bool} (hworld : lab.world.bodies.toList.Nodup)
    (hrange : ∀ i ∈ lab.world.bodies, i < lab.items.size) (hlast : 0 ≤ lab.sim.lastFrame)
    (hs : (lab.setup reset).2 = none) :
    ∃ S : RunStart, S.cfg = lab.sim.cfg ∧ S.reset = reset ∧ S.start = (if reset then 0 else lab.sim.lastFrame) ∧
      S.before = lab.records.items ∧ S.items = (lab.setup reset).1.run.bodies.toList.map (·.item) ∧
      (lab.setup reset).1.records.Publishing S S.start := by
  obtain ⟨hv, its, hsub, hR₀⟩ := lab.records_setup hs
  have htaking : (lab.setup reset).1.run.bodies.toList.map (·.item) = its := by
    simpa [Function.comp_def] using Lab.items_run_of_records _ (congrArg Records.run hR₀)
  -- what the run fixes, from the setup
  let S : RunStart :=
    { cfg := lab.sim.cfg, reset := reset, start := if reset then 0 else lab.sim.lastFrame,
      before := lab.records.items, items := its
      nodup := hsub.nodup hworld
      lt_length := fun i hi => by
        simpa [Lab.records] using hrange i (Array.mem_toList_iff.1 (hsub.subset hi))
      start_nonneg := by cases reset <;> simp [hlast]
      tail_pos := Config.tailFrames_pos hv }
  refine ⟨S, rfl, rfl, rfl, rfl, htaking.symm, ?_⟩
  rw [hR₀]
  exact Records.publishing_opened S _

/-- A run that starts publishes, to every item taking part, each frame it
steps to: at its end the item's state is its last frame, its recording holds
the run's frames after the ones it had, as the recording mode keeps them, and
each publication told every listener its newest frame, in increasing listener
order, the frames strictly increasing. -/
theorem run_publishes_its_frames (h : Handlers τ σ) (hh : h.KeepsRecords) (fuel : Nat) (reset : Bool)
    (lab : Lab τ σ) (hworld : lab.world.bodies.toList.Nodup)
    (hrange : ∀ i ∈ lab.world.bodies, i < lab.items.size) (hlast : 0 ≤ lab.sim.lastFrame)
    (hs : (lab.start h fuel reset).2 = none) :
    let f0 := if reset then 0 else lab.sim.lastFrame
    let L := (lab.start h fuel reset).1
    let taking := (lab.setup reset).1.run.bodies.toList.map (·.item)
    f0 ≤ L.sim.lastFrame ∧ (taking ≠ [] → L.sim.simFrame = L.sim.lastFrame) ∧
      ∀ i ∈ taking, (L.items.getD i default).records.PublishedUpTo lab.sim.cfg f0
        ((lab.items.getD i default).records.reopen reset) L.sim.lastFrame := by
  intro f0 L taking
  obtain ⟨S, hcfg, hreset, hstart, hbefore, htaking, h₀⟩ :=
    lab.publishing_setup hworld hrange hlast (lab.setup_ok_of_start hs)
  -- the invariant through the loop, then the last publication
  have hflush : ∀ R : Records, (∃ last, R.Publishing S last) → ∃ last, R.flush.Publishing S last := by
    rintro R ⟨last, hR⟩
    obtain ⟨F, hF, -⟩ := hR.flush
    exact ⟨F, hF⟩
  have hadvance : ∀ R : Records, (∃ last, R.Publishing S last) →
      ∃ last, R.advanceFrame.Publishing S last := by
    rintro R ⟨last, hR⟩
    exact ⟨last, hR.advanceFrame⟩
  obtain ⟨R, ⟨last, hR⟩, hL⟩ := lab.start_records_induction hh hflush hadvance hs ⟨_, h₀⟩
  obtain ⟨F, hF, hframe⟩ := hR.flush
  have hlastF : L.sim.lastFrame = F := by
    have := congrArg Records.lastFrame hL
    simp only [Records.finish, hframe, Option.getD_some] at this
    exact this
  have hitems : L.records.items = R.flush.items := (congrArg Records.items hL).trans rfl
  have hsize : L.items.size = lab.items.size := by
    have := congrArg List.length hitems
    simpa [Lab.records, hF.length, hbefore] using this
  have hstartF : f0 ≤ F := by
    have := hF.start_le
    rwa [hstart] at this
  refine ⟨hlastF ▸ hstartF, fun hne => ?_, fun i hi => ?_⟩
  · have := congrArg Records.simFrame hL
    rw [hlastF]
    exact this.trans (hF.simFrame (show S.items ≠ [] by rw [htaking]; exact hne))
  · replace hi : i ∈ S.items := htaking ▸ hi
    have hi' : i < lab.items.size := by simpa [hbefore, Lab.records] using S.lt_length i hi
    rw [Lab.records_items_getD _ (hsize ▸ hi'), hitems, Lab.records_items_getD _ hi', hlastF]
    have hpub := hF.published i hi
    rw [hcfg, hstart, RunStart.base, hbefore, hreset] at hpub
    exact hpub

/-- An idle lab whose world holds one body, an arm on a free root. -/
def armLab : Lab Unit Unit where
  assembly := armAssembly
  items := #[{ name := "arm", master := ⟨0⟩ }]
  controllers := #[]
  world := { name := "world", bodies := #[0] }
  sim := { Simulator.create (some default) {} with hasWorld := true }
  session := ()

theorem run_publishes_its_frames_armLab :
    (armLab.setup true).1.run.bodies.toList.map (·.item) = [0] ∧
      quietHandlers.KeepsRecords ∧ armLab.world.bodies.toList.Nodup ∧
      (∀ i ∈ armLab.world.bodies, i < armLab.items.size) ∧ 0 ≤ armLab.sim.lastFrame ∧
      (armLab.start quietHandlers 3 true).2 = none ∧
      (let f0 := if true then 0 else armLab.sim.lastFrame
       let L := (armLab.start quietHandlers 3 true).1
       let taking := (armLab.setup true).1.run.bodies.toList.map (·.item)
       f0 ≤ L.sim.lastFrame ∧ (taking ≠ [] → L.sim.simFrame = L.sim.lastFrame) ∧
         ∀ i ∈ taking, (L.items.getD i default).records.PublishedUpTo armLab.sim.cfg f0
           ((armLab.items.getD i default).records.reopen true) L.sim.lastFrame) := by
  -- the arm takes part in the run, which goes through
  have htaking : (armLab.setup true).1.run.bodies.toList.map (·.item) = [0] := by decide +kernel
  have hh : quietHandlers.KeepsRecords := quietHandlers_keepsRecords
  have hw : armLab.world.bodies.toList.Nodup := by decide
  have hr : ∀ i ∈ armLab.world.bodies, i < armLab.items.size := by decide
  have hl : 0 ≤ armLab.sim.lastFrame := by decide
  have hs : (armLab.start quietHandlers 3 true).2 = none :=
    Option.isNone_iff_eq_none.1 (by decide +kernel)
  exact ⟨htaking, hh, hw, hr, hl, hs, run_publishes_its_frames quietHandlers hh 3 true armLab hw hr hl hs⟩

end Multibody.Sim
