import Multibody.Proofs.Recording.Opening

/-!
# What a run has published at every point

`ItemRecords.PublishedUpTo` says what each item of a run shows once the
frames up to `last` are published: the state of frame `last`, the recording
of the frames since the start as the recording mode keeps them, and every
listener told each publication's newest frame.  With the buffering of the
later frames (`RunRecords.Buffering`) this is `Publishing`, which the setup
establishes (`publishing_setup`) and advancing and flushing keep
(`Publishing.advanceFrame`, `Publishing.flush`).
-/

namespace Multibody.Sim

/-! ## Spans of frames -/

/-- The frames after `a` up to `b`, oldest first. -/
def frameSpan (a b : Int) : List Int := (List.range (b - a).toNat).map fun k : Nat => a + 1 + (k : Int)

@[simp] theorem frameSpan_self (a : Int) : frameSpan a a = [] := by
  simp [frameSpan]

theorem frameSpan_append {a b c : Int} (hab : a ≤ b) (hbc : b ≤ c) :
    frameSpan a b ++ frameSpan b c = frameSpan a c := by
  unfold frameSpan
  rw [show (c - a).toNat = (b - a).toNat + (c - b).toNat by omega, List.range_add, List.map_append,
    List.map_map]
  congr 1
  apply List.map_congr_left
  intro k _
  simp only [Function.comp_apply]
  omega

theorem frameSpan_of_lt {a b : Int} (h : a < b) : frameSpan a b = frameSpan a (b - 1) ++ [b] := by
  rw [← frameSpan_append (show a ≤ b - 1 by omega) (show b - 1 ≤ b by omega)]
  congr 1
  have hone : (b - (b - 1)).toNat = 1 := by omega
  simp only [frameSpan, hone, List.range_one, List.map_cons, List.map_nil, List.cons.injEq, and_true]
  omega

/-! ## An item of a run -/

/-- An item of a run in settings `cfg`, started at frame `f0` from the
records `ir₀`, that has published the frames up to `last`. -/
structure ItemRecords.PublishedUpTo (ir : ItemRecords) (cfg : Config) (f0 : Int) (ir₀ : ItemRecords)
    (last : Int) : Prop where
  /-- once a frame was published, the newest is the state -/
  state : f0 < last → ir.state = some last
  /-- the frames published after those it was taken up with, as the mode keeps them -/
  recording : ir.recording = cfg.recording.retain cfg.tailFrames ir₀.recording (frameSpan f0 last)
  capacity : ir.capacity = cfg.recordingCapacity
  listeners : ir.listeners = ir₀.listeners
  /-- each publication told every listener, in increasing order, its newest frame -/
  notices : ∃ gs : List Int, gs.Pairwise (· < ·) ∧ (∀ g ∈ gs, f0 < g ∧ g ≤ last) ∧
    (f0 < last → gs.getLast? = some last) ∧
    ir.notices = ir₀.notices ++ gs.flatMap fun g => (ir₀.listeners.toList.mergeSort (· ≤ ·)).map (·, g)

namespace ItemRecords

variable {cfg : Config} {f0 last : Int} {ir₀ ir : ItemRecords}

theorem publishedUpTo_openRun (hv : cfg.recording = .tail → 0 < cfg.tailFrames) (reset : Bool) :
    (ir.openRun reset cfg.recordingCapacity).PublishedUpTo cfg f0 (ir.reopen reset) f0 where
  state h := absurd h (Int.lt_irrefl f0)
  recording := by
    obtain ⟨m, hm⟩ : ∃ m, cfg.recording = m := ⟨_, rfl⟩
    cases m with
    | tail => simp [openRun, Config.recordingCapacity_eq, hm, RecordingMode.retain, Int.not_le.2 (hv hm)]
    | full => simp [openRun, Config.recordingCapacity_eq, hm, RecordingMode.retain]
    | off => simp [openRun, Config.recordingCapacity_eq, hm, RecordingMode.retain]
    | other c => simp [openRun, Config.recordingCapacity_eq, hm, RecordingMode.retain]
  capacity := rfl
  listeners := rfl
  notices := ⟨[], List.Pairwise.nil, by simp, fun h => absurd h (Int.lt_irrefl f0), by simp [openRun]⟩

/-- A publication of the frames after `last` up to `F`, as a buffer of the
configured capacity holds them, moves an item to `F`: the two trims, of the
buffer and of the recording, keep the newest frames of all of them. -/
theorem PublishedUpTo.publish (hp : ir.PublishedUpTo cfg f0 ir₀ last)
    (hv : cfg.recording = .tail → 0 < cfg.tailFrames) (h0 : f0 ≤ last) {F : Int} (hlt : last < F) :
    (ir.publish (window cfg.bufferCapacity (frameSpan last F)) (cfg.recording != .off)).PublishedUpTo
      cfg f0 ir₀ F := by
  have hnew : (window cfg.bufferCapacity (frameSpan last F)).getLast? = some F := by
    rw [frameSpan_of_lt hlt]
    exact getLast?_window _ _ _
  have hcat : frameSpan f0 last ++ frameSpan last F = frameSpan f0 F := frameSpan_append h0 (Int.le_of_lt hlt)
  obtain ⟨gs, hsorted, hbound, -, hnotices⟩ := hp.notices
  unfold ItemRecords.publish
  rw [hnew]
  dsimp only
  refine ⟨fun _ => rfl, ?_, hp.capacity, hp.listeners, gs ++ [F], ?_, ?_, by simp, ?_⟩
  · -- the recording, mode by mode
    have hrec := hp.recording
    have hcap := hp.capacity
    obtain ⟨m, hm⟩ : ∃ m, cfg.recording = m := ⟨_, rfl⟩
    rw [Config.recordingCapacity_eq, hm] at hcap
    rw [hm] at hrec
    rw [Config.records_eq, hm]
    cases m with
    | tail =>
      have hK : 0 < cfg.tailFrames := hv hm
      have hK' : cfg.tailFrames.toNat ≠ 0 := by omega
      simp only [Bool.not_true, Bool.false_eq_true, ↓reduceIte, hcap, Int.not_le.2 hK, Config.bufferCapacity,
        hm, window, hK', hrec, RecordingMode.retain]
      rw [rtake_append_rtake, rtake_rtake_append, List.append_assoc, hcat]
    | full => simp [hcap, hrec, Config.bufferCapacity, hm, RecordingMode.retain, hcat]
    | off => simp [hrec, RecordingMode.retain]
    | other c => simp [hcap, hrec, Config.bufferCapacity, hm, RecordingMode.retain, hcat]
  · -- the publications' frames stay strictly increasing
    rw [List.pairwise_append]
    refine ⟨hsorted, List.pairwise_singleton _ _, ?_⟩
    intro g hg F' hF'
    rw [List.mem_singleton] at hF'
    exact hF' ▸ Int.lt_of_le_of_lt (hbound g hg).2 hlt
  · intro g hg
    rcases List.mem_append.1 hg with hg | hg
    · exact ⟨(hbound g hg).1, Int.le_trans (hbound g hg).2 (Int.le_of_lt hlt)⟩
    · rw [List.mem_singleton] at hg
      subst hg
      exact ⟨Int.lt_of_le_of_lt h0 hlt, Int.le_refl _⟩
  · rw [hnotices, hp.listeners, List.flatMap_append, List.flatMap_singleton, List.append_assoc]

end ItemRecords

/-! ## Changing entries of a list by position -/

theorem getD_modify {α : Type} (g : α → α) (l : List α) (k i : Nat) (d : α) :
    (l.modify k g).getD i d = if k = i ∧ i < l.length then g (l.getD i d) else l.getD i d := by
  simp only [List.getD_eq_getElem?_getD, List.getElem?_modify]
  by_cases hk : k = i
  · subst hk
    by_cases hi : k < l.length <;> simp [hi]
  · simp [hk]

theorem length_foldl_modify {α : Type} (g : α → α) :
    ∀ (ks : List Nat) (l : List α), (ks.foldl (fun l k => l.modify k g) l).length = l.length
  | [], _ => rfl
  | k :: ks, l => by rw [List.foldl_cons, length_foldl_modify g ks, List.length_modify]

theorem getD_foldl_modify {α : Type} (g : α → α) (d : α) :
    ∀ (ks : List Nat) (l : List α) (i : Nat), ks.Nodup →
      (ks.foldl (fun l k => l.modify k g) l).getD i d =
        if i ∈ ks ∧ i < l.length then g (l.getD i d) else l.getD i d
  | [], l, i, _ => by simp
  | k :: ks, l, i, hnd => by
    rw [List.nodup_cons] at hnd
    rw [List.foldl_cons, getD_foldl_modify g d ks _ i hnd.2, getD_modify, List.length_modify]
    by_cases hik : i = k
    · subst hik
      simp [hnd.1]
    · simp [hik, Ne.symm hik]

/-! ## A run -/

/-- What a run fixes about publication when it starts: its settings, whether
it reset, the frame it starts at, the items' records before it, and the
items of its bodies, each once. -/
structure RunStart where
  cfg : Config
  reset : Bool
  start : Int
  before : List ItemRecords
  items : List Nat
  nodup : items.Nodup
  lt_length : ∀ i ∈ items, i < before.length
  start_nonneg : 0 ≤ start
  tail_pos : cfg.recording = .tail → 0 < cfg.tailFrames

/-- The records the run takes the `i`-th item up from. -/
def RunStart.base (S : RunStart) (i : Nat) : ItemRecords := (S.before.getD i default).reopen S.reset

/-- The run of `S` buffers the frames after `last` up to its frame, in
every body, within the configured capacity. -/
structure RunRecords.Buffering (rr : RunRecords) (S : RunStart) (last : Int) : Prop where
  record : rr.record = (S.cfg.recording != .off)
  items : rr.bodies.map (·.item) = S.items
  last_le : last ≤ rr.frame
  capacity : ∀ b ∈ rr.bodies, b.capacity = S.cfg.bufferCapacity
  buffer : ∀ b ∈ rr.bodies, b.buffer = window S.cfg.bufferCapacity (frameSpan last rr.frame)

/-- The records of a run of `S` that has published the frames up to
`last`. -/
structure Records.Publishing (R : Records) (S : RunStart) (last : Int) : Prop where
  run : ∃ rr, R.run = some rr ∧ rr.Buffering S last
  start_le : S.start ≤ last
  published : ∀ i ∈ S.items, (R.items.getD i default).PublishedUpTo S.cfg S.start (S.base i) last
  simFrame : S.items ≠ [] → R.simFrame = last
  length : R.items.length = S.before.length

namespace Records

variable {R : Records} {S : RunStart} {last : Int}

theorem publishing_opened (S : RunStart) (lastFrame : Int) :
    ({ items := S.items.foldl (fun l i => l.modify i (·.openRun S.reset S.cfg.recordingCapacity)) S.before
       run := some ⟨S.start, S.cfg.recording != .off, S.items.map fun i => ⟨i, [], S.cfg.bufferCapacity⟩⟩
       simFrame := S.start
       lastFrame := lastFrame } : Records).Publishing S S.start where
  run := ⟨_, rfl, rfl, by simp [Function.comp_def], Int.le_refl _, by simp, by simp [window_nil]⟩
  start_le := Int.le_refl _
  published i hi := by
    dsimp only
    rw [getD_foldl_modify _ _ _ _ _ S.nodup, if_pos ⟨hi, S.lt_length i hi⟩]
    exact ItemRecords.publishedUpTo_openRun S.tail_pos S.reset
  simFrame _ := rfl
  length := length_foldl_modify _ _ _

theorem Publishing.advanceFrame (hp : R.Publishing S last) : R.advanceFrame.Publishing S last := by
  obtain ⟨rr, hr, hb⟩ := hp.run
  refine ⟨⟨{ rr with frame := rr.frame + 1, bodies := rr.bodies.map (·.push (rr.frame + 1)) },
    by simp [Records.advanceFrame, hr], ?_⟩, hp.start_le, hp.published, hp.simFrame, hp.length⟩
  refine ⟨hb.record, ?_, Int.le_trans hb.last_le (Int.le_add_one (Int.le_refl _)), ?_, ?_⟩
  · simpa [BodyRecords.push, Function.comp_def] using hb.items
  · intro b hb'
    obtain ⟨b₀, hb₀, rfl⟩ := List.mem_map.1 hb'
    exact hb.capacity b₀ hb₀
  · intro b hb'
    obtain ⟨b₀, hb₀, rfl⟩ := List.mem_map.1 hb'
    have hF : last < rr.frame + 1 := Int.lt_add_one_iff.2 hb.last_le
    simp only [BodyRecords.push, hb.capacity b₀ hb₀, hb.buffer b₀ hb₀, window_append_window,
      frameSpan_of_lt hF, Int.add_sub_cancel]

theorem foldl_flushBody_of_empty {rr : RunRecords} (hempty : ∀ b ∈ rr.bodies, b.buffer = [])
    (ks : List Nat) (acc : Records × Nat × Int) : ks.foldl (Records.flushBody rr) acc = acc := by
  apply foldl_keeps id
  intro acc k
  unfold Records.flushBody
  cases hk : rr.bodies[k]? with
  | none => rfl
  | some b => simp [hempty b (List.mem_of_getElem? hk)]

/-- Bodies that all buffer the frames `W`, the newest `F`: after the first
`m` have published, their items have taken `W`, their buffers are empty,
`m` times `W` frames were published and the newest is `F`. -/
theorem foldl_flushBody {rr : RunRecords} {its : List Nat} {W : List Int} {F : Int}
    (hr : R.run = some rr) (hitems : rr.bodies.map (·.item) = its) (hW : ∀ b ∈ rr.bodies, b.buffer = W)
    (hlast : W.getLast? = some F) (hF : -1 < F) :
    ∀ m ≤ rr.bodies.length, (List.range m).foldl (Records.flushBody rr) (R, 0, -1) =
      ({ R with
         items := (its.take m).foldl (fun l i => l.modify i (·.publish W rr.record)) R.items
         run := some { rr with
           bodies := rr.bodies.mapIdx fun k b => if k < m then { b with buffer := [] } else b } },
       m * W.length, if m = 0 then -1 else F)
  | 0, _ => by
    obtain ⟨items, run, simFrame, lastFrame⟩ := R
    simp only at hr
    simp [hr, mapIdx_self]
  | m + 1, hm => by
    rw [List.range_succ, List.foldl_append, foldl_flushBody hr hitems hW hlast hF m (by omega)]
    have hmem : rr.bodies[m] ∈ rr.bodies := List.getElem_mem _
    have hit : its[m]? = some rr.bodies[m].item := by
      rw [← hitems, List.getElem?_map, List.getElem?_eq_getElem (by omega)]
      rfl
    simp only [List.foldl_cons, List.foldl_nil]
    unfold Records.flushBody
    rw [List.getElem?_eq_getElem (by omega)]
    dsimp only
    rw [hW _ hmem, hlast]
    dsimp only
    have hmax : (if F > (if m = 0 then -1 else F) then F else if m = 0 then -1 else F) = F := by
      by_cases hm0 : m = 0 <;> simp [hm0, hF]
    rw [hmax, List.take_add_one, hit, List.foldl_append, Option.map_some, modify_mapIdx_lt]
    simp [Nat.succ_mul]

theorem Publishing.flush (hp : R.Publishing S last) :
    ∃ F, R.flush.Publishing S F ∧ R.flush.run.map (·.frame) = some F := by
  obtain ⟨rr, hr, hb⟩ := hp.run
  refine ⟨rr.frame, ?_⟩
  rcases Int.lt_or_eq_of_le hb.last_le with hlt | heq
  · -- every body holds the same frames, the newest the run's frame
    have hlast : (window S.cfg.bufferCapacity (frameSpan last rr.frame)).getLast? = some rr.frame := by
      rw [frameSpan_of_lt hlt]
      exact getLast?_window _ _ _
    have hlen : rr.bodies.length = S.items.length := by rw [← hb.items, List.length_map]
    have hF : -1 < rr.frame := by
      have := S.start_nonneg
      have := hp.start_le
      omega
    have hfold := foldl_flushBody hr hb.items hb.buffer hlast hF rr.bodies.length (Nat.le_refl _)
    rw [List.take_of_length_le (by omega), mapIdx_ite_of_length_le _ _ (Nat.le_refl _)] at hfold
    -- what the flush leaves, whether or not a frame was published
    have key : ∀ R₂ : Records,
        R₂.items = S.items.foldl (fun l i => l.modify i (·.publish
          (window S.cfg.bufferCapacity (frameSpan last rr.frame)) rr.record)) R.items →
        R₂.run = some { rr with bodies := rr.bodies.map fun b => { b with buffer := [] } } →
        (S.items ≠ [] → R₂.simFrame = rr.frame) →
        R₂.Publishing S rr.frame ∧ R₂.run.map (·.frame) = some rr.frame := by
      intro R₂ hitems hrun hsim
      refine ⟨⟨⟨_, hrun, hb.record, ?_, Int.le_refl _, ?_, ?_⟩, Int.le_trans hp.start_le hb.last_le, ?_, hsim,
        ?_⟩, by simp [hrun]⟩
      · simpa [Function.comp_def] using hb.items
      · intro b hb'
        obtain ⟨b₀, hb₀, rfl⟩ := List.mem_map.1 hb'
        exact hb.capacity b₀ hb₀
      · intro b hb'
        obtain ⟨b₀, -, rfl⟩ := List.mem_map.1 hb'
        simp [window_nil]
      · intro i hi
        have hlt' : i < R.items.length := hp.length ▸ S.lt_length i hi
        rw [hitems, getD_foldl_modify _ _ _ _ _ S.nodup, if_pos ⟨hi, hlt'⟩, hb.record]
        exact (hp.published i hi).publish S.tail_pos hp.start_le hlt
      · rw [hitems, length_foldl_modify, hp.length]
    unfold Records.flush
    rw [hr]
    dsimp only
    rw [hfold]
    dsimp only
    split
    · rename_i h0
      refine key _ rfl rfl fun hne => absurd h0 ?_
      have hpos : 0 < rr.bodies.length := by
        rw [hlen]
        exact List.length_pos_iff.2 hne
      have hW : (window S.cfg.bufferCapacity (frameSpan last rr.frame)).length ≠ 0 := by
        intro h
        rw [List.length_eq_zero_iff] at h
        simp [h] at hlast
      exact Nat.mul_ne_zero (Nat.pos_iff_ne_zero.1 hpos) hW
    · rename_i h0
      refine key _ rfl rfl fun _ => ?_
      have hpos : rr.bodies.length ≠ 0 := fun h => h0 (by simp [h])
      simp [hpos]
  · -- nothing is buffered: the flush changes nothing
    have hempty : ∀ b ∈ rr.bodies, b.buffer = [] := by
      intro b hb'
      rw [hb.buffer b hb', heq, frameSpan_self, window_nil]
    unfold Records.flush
    rw [hr]
    dsimp only
    rw [foldl_flushBody_of_empty hempty]
    dsimp only
    rw [if_pos rfl]
    exact ⟨heq ▸ hp, by simp [hr]⟩

end Records

end Multibody.Sim
