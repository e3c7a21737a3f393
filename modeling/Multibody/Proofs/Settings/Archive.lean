import Multibody.Sim.Simulator
import Multibody.Proofs.Text.Duration

/-!
# Settings kept in an archive

Valid settings with named modes come back exactly from what they store,
also through YAML text that reads a whole double back as a whole number
(`restore_of_readsBack`, `ArchiveCodec.GivesBack`); a mode outside the
named ones is stored as a number no mode reads, so it does not
(`restore_store_unnamed`).  A successful restore
leaves valid settings (`restore_validate`); on the simulator a restore is
refused while running and a failed one changes nothing
(`Lab.restore_of_running`, `Lab.restore_failed`, `Lab.restore_succeeded`).
-/

namespace Multibody.Sim

open Yaml

/-! ## Keys written one after another -/

theorem lookup_map_setEntry {α : Type} (es : List (String × α)) (k k' : String) (v : α) :
    (es.map fun (j, x) => if j == k then (j, v) else (j, x)).lookup k' =
      (es.lookup k').map fun x => if k' = k then v else x := by
  induction es with
  | nil => rfl
  | cons e es ih =>
    obtain ⟨j, x⟩ := e
    have hhead : (if (j == k) = true then (j, v) else (j, x)) = (j, if j = k then v else x) := by
      by_cases hjk : j = k <;> simp [hjk]
    rw [List.map_cons]
    dsimp only
    rw [hhead, List.lookup_cons, List.lookup_cons]
    by_cases hj : k' = j
    · subst hj
      simp
    · have hb : (k' == j) = false := by simpa using hj
      rw [hb]
      exact ih

theorem lookup_pair {α : Type} (k j : String) (x : α) : [(j, x)].lookup k = if k = j then some x else none := by
  by_cases h : k = j
  · subst h
    simp
  · have hb : (k == j) = false := by simpa using h
    rw [List.lookup_cons, hb, if_neg h]
    rfl

theorem lookup_setEntry {α : Type} (es : List (String × α)) (k k' : String) (v : α) :
    (setEntry es k v).lookup k' = if k' = k then some v else es.lookup k' := by
  unfold setEntry
  split
  · rename_i hany
    rw [lookup_map_setEntry]
    by_cases hk : k' = k
    · -- the key is there, so its value is replaced
      subst hk
      obtain ⟨p, hp, hpk⟩ := List.any_eq_true.1 hany
      have hsome : (es.lookup k').isSome := List.lookup_isSome_iff.2 ⟨p, hp, by
        rw [beq_iff_eq] at hpk ⊢
        exact hpk.symm⟩
      obtain ⟨x, hx⟩ := Option.isSome_iff_exists.1 hsome
      simp [hx]
    · simp [hk]
  · rename_i hany
    rw [List.lookup_append]
    by_cases hk : k' = k
    · subst hk
      have hnone : es.lookup k' = none := List.lookup_eq_none_iff.2 fun p hp => by
        have hne : ¬ (p.1 == k') = true := List.any_eq_false.1 (Bool.eq_false_iff.2 hany) p hp
        rw [bne_iff_ne]
        rintro rfl
        exact hne (beq_self_eq_true _)
      simp [hnone]
    · rw [lookup_pair, if_neg hk, Option.or_none, if_neg hk]

namespace Archive

theorem get?_write (a : Archive) (k k' : String) (v : Value) :
    (a.write k v).get? k' = if k' = k then some v else a.get? k' :=
  lookup_setEntry a.entries k k' v

theorem get?_foldl_write (kvs : List (String × Value)) (a : Archive) (k : String) :
    (kvs.foldl (fun a kv => a.write kv.1 kv.2) a).get? k = (kvs.reverse.lookup k).or (a.get? k) := by
  induction kvs generalizing a with
  | nil => rfl
  | cons kv kvs ih =>
    obtain ⟨j, x⟩ := kv
    rw [List.foldl_cons, ih, get?_write, List.reverse_cons, List.lookup_append, Option.or_assoc]
    congr 1
    rw [lookup_pair]
    by_cases hk : k = j <;> simp [hk]

theorem float_of_get? {a : Archive} {k : String} {x : Float} (h : a.get? k = some (.float x)) (d : Float) :
    a.float k d = x := by
  simp [Archive.float, h]

theorem int_of_get? {a : Archive} {k : String} {i : Int} (h : a.get? k = some (.int i)) (d : Int) :
    a.int k d = i := by
  simp [Archive.int, h]

theorem bool_of_get? {a : Archive} {k : String} {b : Bool} (h : a.get? k = some (.bool b)) (d : Bool) :
    a.bool k d = b := by
  simp [Archive.bool, h]

theorem string_of_get? {a : Archive} {k s : String} (h : a.get? k = some (.str s)) (d : String) :
    a.string k d = s := by
  simp [Archive.string, h]

/-- Archive `a` reads back the keys and values `kvs`: each key holds its
value, or, for a double, a whole number that converts to it, as YAML text
gives back a double with a whole value. -/
def ReadsBack (a : Archive) (kvs : List (String × Value)) : Prop :=
  ∀ kv ∈ kvs, a.get? kv.1 = some kv.2 ∨ ∃ x i, kv.2 = .float x ∧ a.get? kv.1 = some (.int i) ∧ Float.ofInt i = x

theorem float_of_readsBack {a : Archive} {k : String} {x : Float}
    (h : a.get? k = some (.float x) ∨ ∃ y i, Value.float x = .float y ∧ a.get? k = some (.int i) ∧ Float.ofInt i = y)
    (d : Float) : a.float k d = x := by
  rcases h with h | ⟨y, i, hy, hi, hiy⟩
  · exact float_of_get? h d
  · cases hy
    simp [Archive.float, hi, hiy]

theorem named_of_get? {α : Type} {a : Archive} {k s : String} (h : a.get? k = some (.str s)) (hs : s ≠ "")
    (parse : String → Except String α) (d : α) : a.named k parse d = parse s := by
  simp [Archive.named, string_of_get? h, hs]

end Archive

/-! ## Names of modes -/

/-- Whether a recording mode is one of the named ones. -/
def RecordingMode.isNamed : RecordingMode → Bool
  | .other _ => false
  | _ => true

/-- Whether a time range mode is one of the named ones. -/
def TimeRangeMode.isNamed : TimeRangeMode → Bool
  | .other _ => false
  | _ => true

theorem RecordingMode.parse_name {m : RecordingMode} (h : m.isNamed = true) : parse m.name = .ok m := by
  cases m with
  | full => rfl
  | tail => rfl
  | off => rfl
  | other k => cases h

theorem TimeRangeMode.parse_name {m : TimeRangeMode} (h : m.isNamed = true) : parse m.name = .ok m := by
  cases m with
  | unlimited => rfl
  | activeControl => rfl
  | specified => rfl
  | timeline => rfl
  | other k => cases h

theorem ne_of_head {s t : String} (h : s.toList.head? ≠ t.toList.head?) : s ≠ t :=
  fun e => h (by rw [e])

theorem RecordingMode.parse_name_of_unnamed {m : RecordingMode} (h : m.isNamed = false) :
    ∃ e, parse m.name = .error e := by
  cases m with
  | full => cases h
  | tail => cases h
  | off => cases h
  | other k =>
    unfold parse
    split
    · exact absurd ‹_› (ne_of_head (by simp [name]))
    · exact absurd ‹_› (ne_of_head (by simp [name]))
    · exact absurd ‹_› (ne_of_head (by simp [name]))
    · exact ⟨_, rfl⟩

theorem TimeRangeMode.parse_name_of_unnamed {m : TimeRangeMode} (h : m.isNamed = false) :
    ∃ e, parse m.name = .error e := by
  cases m with
  | unlimited => cases h
  | activeControl => cases h
  | specified => cases h
  | timeline => cases h
  | other k =>
    unfold parse
    split
    · exact absurd ‹_› (ne_of_head (by simp [name]))
    · exact absurd ‹_› (ne_of_head (by simp [name]))
    · exact absurd ‹_› (ne_of_head (by simp [name]))
    · exact absurd ‹_› (ne_of_head (by simp [name]))
    · exact ⟨_, rfl⟩

theorem RecordingMode.name_ne_empty (m : RecordingMode) : m.name ≠ "" := by
  cases m <;> simp [name]

theorem TimeRangeMode.name_ne_empty (m : TimeRangeMode) : m.name ≠ "" := by
  cases m <;> simp [name]

theorem lookup_reverse_of_mem {α : Type} {l : List (String × α)} {k : String} {v : α}
    (hnd : (l.map Prod.fst).Nodup) (h : (k, v) ∈ l) : l.reverse.lookup k = some v := by
  obtain ⟨s, t, hst⟩ := List.append_of_mem (List.mem_reverse.2 h)
  refine List.lookup_eq_some_iff.2 ⟨s, t, hst, fun p hp => ?_⟩
  have hnd' : (l.reverse.map Prod.fst).Nodup := by
    rw [List.map_reverse]
    exact List.nodup_reverse.2 hnd
  rw [hst, List.map_append, List.map_cons] at hnd'
  have hnot : k ∉ s.map Prod.fst := fun hk =>
    (List.nodup_cons.1 (List.nodup_middle.1 hnd')).1 (List.mem_append_left _ hk)
  rw [bne_iff_ne]
  rintro rfl
  exact hnot (List.mem_map_of_mem hp)

/-! ## Settings stored and restored -/

namespace Config

/-- The keys settings are stored under, with their values, in the order they
are written. -/
def entries (c : Config) : List (String × Value) :=
  [("timeStep", .float c.timeStep), ("recording", .str c.recording.name), ("tailFrames", .int c.tailFrames),
   ("timeRangeMode", .str c.timeRange.name), ("timeLength", .float c.timeLength),
   ("selfCollision", .bool c.selfCollision), ("deviceStateOutput", .bool c.deviceStateOutput),
   ("allLinkPositionOutput", .bool c.allLinkPositionOutput), ("realtimeSync", .bool c.realtimeSync),
   ("flushPeriod", .str (Text.durationText c.flushPeriod)), ("controllerOptions", .str c.controllerOptions)]

theorem store_eq (c : Config) (a : Archive) : c.store a = c.entries.foldl (fun a kv => a.write kv.1 kv.2) a := rfl

theorem keys_nodup (c : Config) : (c.entries.map Prod.fst).Nodup := by
  simp only [entries, List.map_cons, List.map_nil]
  decide +kernel

theorem get?_store {c : Config} {k : String} {v : Value} (h : (k, v) ∈ c.entries) (a : Archive) :
    (c.store a).get? k = some v := by
  rw [store_eq, Archive.get?_foldl_write, lookup_reverse_of_mem c.keys_nodup h]
  rfl

theorem flushPeriod_nonneg {c : Config} (h : c.validate = none) : 0 ≤ c.flushPeriod := by
  unfold validate Failure.join? at h
  split at h
  · rename_i hp
    by_contra hneg
    simp [problems, Int.lt_of_not_ge hneg] at hp
  · cases h

end Config

theorem bind_eq_ok {ε α β : Type} {x : Except ε α} {f : α → Except ε β} {r : β} (h : (x >>= f) = .ok r) :
    ∃ a, x = .ok a ∧ f a = .ok r := by
  cases x with
  | error e => cases h
  | ok a => exact ⟨a, rfl, h⟩

namespace Config

theorem restore_validate {c c' : Config} {a : Archive} (h : c.restore a = .ok c') : c'.validate = none := by
  unfold restore at h
  obtain ⟨_, -, h⟩ := bind_eq_ok h
  obtain ⟨_, -, h⟩ := bind_eq_ok h
  obtain ⟨_, -, h⟩ := bind_eq_ok h
  dsimp only at h
  split at h
  · cases h
  · rename_i hv
    cases h
    exact hv

/-- Valid settings whose modes are named come back from any archive that
reads back the keys they store, a whole double possibly as a whole number,
whatever the settings they are restored into.  Flush periods are 64-bit
durations. -/
theorem restore_of_readsBack {c : Config} (hv : c.validate = none) (hrec : c.recording.isNamed = true)
    (htr : c.timeRange.isNamed = true) (hf : c.flushPeriod < 2 ^ 63) (c' : Config) {a : Archive}
    (hread : a.ReadsBack c.entries) : c'.restore a = .ok c := by
  have hf0 := flushPeriod_nonneg hv
  -- a key that holds no double holds what was stored; a double reads back as itself
  have hexact : ∀ k v, (k, v) ∈ c.entries → (∀ x, v ≠ .float x) → a.get? k = some v := fun k v hkv hnf =>
    (hread (k, v) hkv).resolve_right fun ⟨x, _, hx, _⟩ => hnf x hx
  have hdouble : ∀ k x, (k, Value.float x) ∈ c.entries → ∀ d, a.float k d = x := fun k x hkx d =>
    Archive.float_of_readsBack (hread _ hkx) d
  -- the settings stored by name read back through their parsers
  have hr : a.named "recording" RecordingMode.parse c'.recording = .ok c.recording := by
    rw [Archive.named_of_get? (hexact "recording" (.str c.recording.name) (by simp [entries]) (by simp))
      (RecordingMode.name_ne_empty _),
      RecordingMode.parse_name hrec]
  have ht : a.named "timeRangeMode" TimeRangeMode.parse c'.timeRange = .ok c.timeRange := by
    rw [Archive.named_of_get? (hexact "timeRangeMode" (.str c.timeRange.name) (by simp [entries]) (by simp))
      (TimeRangeMode.name_ne_empty _),
      TimeRangeMode.parse_name htr]
  have hfl : a.named "flushPeriod" Text.parseDuration c'.flushPeriod = .ok c.flushPeriod := by
    rw [Archive.named_of_get? (hexact "flushPeriod" (.str (Text.durationText c.flushPeriod)) (by simp [entries])
      (by simp)) (Text.durationText_ne_empty (by omega) hf), Text.parseDuration_durationText (by omega) hf]
  -- the others read back as they are
  have hts := hdouble "timeStep" c.timeStep (by simp [entries]) c'.timeStep
  have htl := hdouble "timeLength" c.timeLength (by simp [entries]) c'.timeLength
  have htf := Archive.int_of_get? (hexact "tailFrames" (.int c.tailFrames) (by simp [entries]) (by simp))
    c'.tailFrames
  have hsc := Archive.bool_of_get? (hexact "selfCollision" (.bool c.selfCollision) (by simp [entries]) (by simp))
    c'.selfCollision
  have hds := Archive.bool_of_get? (hexact "deviceStateOutput" (.bool c.deviceStateOutput) (by simp [entries])
    (by simp)) c'.deviceStateOutput
  have hal := Archive.bool_of_get? (hexact "allLinkPositionOutput" (.bool c.allLinkPositionOutput)
    (by simp [entries]) (by simp)) c'.allLinkPositionOutput
  have hrs := Archive.bool_of_get? (hexact "realtimeSync" (.bool c.realtimeSync) (by simp [entries]) (by simp))
    c'.realtimeSync
  have hco := Archive.string_of_get? (hexact "controllerOptions" (.str c.controllerOptions) (by simp [entries])
    (by simp)) c'.controllerOptions
  unfold restore
  rw [hr, ht, hfl]
  simp only [Except.mapError, bind, Except.bind, hts, htf, htl, hsc, hds, hal, hrs, hco]
  -- the settings read are the ones stored, which are valid
  split
  · rename_i f hf
    exact absurd (hf.symm.trans hv) (by simp)
  · rfl

theorem restore_store {c : Config} (hv : c.validate = none) (hrec : c.recording.isNamed = true)
    (htr : c.timeRange.isNamed = true) (hf : c.flushPeriod < 2 ^ 63) (c' : Config) (a : Archive) :
    c'.restore (c.store a) = .ok c :=
  restore_of_readsBack hv hrec htr hf c' fun _ hkv => .inl (get?_store hkv a)

theorem restore_store_unnamed {c : Config} (h : c.recording.isNamed = false ∨ c.timeRange.isNamed = false)
    (c' : Config) (a : Archive) : ∃ f, c'.restore (c.store a) = .error f := by
  have hr := Archive.named_of_get? (get?_store (show ("recording", Value.str c.recording.name) ∈ c.entries by
    simp [entries]) a) (RecordingMode.name_ne_empty _) RecordingMode.parse c'.recording
  have ht := Archive.named_of_get? (get?_store (show ("timeRangeMode", Value.str c.timeRange.name) ∈ c.entries by
    simp [entries]) a) (TimeRangeMode.name_ne_empty _) TimeRangeMode.parse c'.timeRange
  unfold restore
  rw [hr, ht]
  cases hrm : c.recording.isNamed
  · obtain ⟨e, he⟩ := RecordingMode.parse_name_of_unnamed hrm
    rw [he]
    exact ⟨_, rfl⟩
  · have htm : c.timeRange.isNamed = false := by simpa [hrm] using h
    obtain ⟨e, he⟩ := TimeRangeMode.parse_name_of_unnamed htm
    rw [RecordingMode.parse_name hrm, he]
    exact ⟨_, rfl⟩

end Config

/-! ## Restoring the simulator's settings -/

namespace Lab

variable {τ σ : Type} (lab : Lab τ σ) (a : Archive)

theorem restore_of_running (h : lab.sim.run.isSome) :
    lab.restore a = (lab, some (.around "restore: " (.condition .alreadyRunning) "")) := by
  simp [restore, h]

theorem restore_of_idle (h : lab.sim.run = none) :
    (∃ f, lab.sim.cfg.restore a = .error f ∧ lab.restore a = (lab, some (.around "restore: " f ""))) ∨
      ∃ c, lab.sim.cfg.restore a = .ok c ∧ lab.restore a = (lab.modifySim fun s => { s with cfg := c }, none) := by
  unfold restore
  rw [if_neg (by simp [h])]
  cases hr : lab.sim.cfg.restore a with
  | error f => exact .inl ⟨f, rfl, rfl⟩
  | ok c =>
    refine .inr ⟨c, rfl, ?_⟩
    simp only [setConfig, Config.restore_validate hr]

theorem restore_failed (h : (lab.restore a).2.isSome) : (lab.restore a).1 = lab := by
  cases hrun : lab.sim.run with
  | some r => rw [restore_of_running lab a (by simp [hrun])]
  | none =>
    rcases restore_of_idle lab a hrun with ⟨f, -, he⟩ | ⟨c, -, he⟩
    · rw [he]
    · rw [he] at h
      cases h

theorem restore_succeeded (h : (lab.restore a).2 = none) :
    ∃ c, lab.sim.cfg.restore a = .ok c ∧ (lab.restore a).1 = lab.modifySim fun s => { s with cfg := c } := by
  cases hrun : lab.sim.run with
  | some r =>
    rw [restore_of_running lab a (by simp [hrun])] at h
    cases h
  | none =>
    rcases restore_of_idle lab a hrun with ⟨f, -, he⟩ | ⟨c, hc, he⟩
    · rw [he] at h
      cases h
    · exact ⟨c, hc, by rw [he]⟩

end Lab

/-! ## Through YAML text -/

/-- A YAML codec for archives: the text an archive is written as, and the
archive read from a text. -/
structure ArchiveCodec where
  encode : Archive → String
  decode : String → Except String Archive

/-- The round trip a codec is trusted with at archive `a`: the text written
for `a` reads as an archive that reads back the keys and values `kvs`, a
double with a whole value possibly as that whole number. -/
def ArchiveCodec.GivesBack (codec : ArchiveCodec) (a : Archive) (kvs : List (String × Value)) : Prop :=
  ∃ a', codec.decode (codec.encode a) = .ok a' ∧ a'.ReadsBack kvs

/-- What storing settings in an archive and restoring them does. -/
structure ArchiveRestore (τ σ : Type) : Prop where
  /-- valid settings with named modes come back from what they store, into any settings -/
  round_trip : ∀ c : Config, c.validate = none → c.recording.isNamed = true → c.timeRange.isNamed = true →
    c.flushPeriod < 2 ^ 63 → ∀ (c' : Config) (a : Archive), c'.restore (c.store a) = .ok c
  /-- through any codec that gives back the keys settings store, valid
  settings with named modes come back from the archive read from the text
  of what they store -/
  through_text : ∀ (codec : ArchiveCodec) (c : Config), c.validate = none → c.recording.isNamed = true →
    c.timeRange.isNamed = true → c.flushPeriod < 2 ^ 63 → ∀ (c' : Config) (a : Archive),
      codec.GivesBack (c.store a) c.entries → ∃ a', codec.decode (codec.encode (c.store a)) = .ok a' ∧
        c'.restore a' = .ok c
  /-- settings with a mode outside the named ones do not come back -/
  unnamed : ∀ c : Config, (c.recording.isNamed = false ∨ c.timeRange.isNamed = false) →
    ∀ (c' : Config) (a : Archive), ∃ f, c'.restore (c.store a) = .error f
  /-- a restore that succeeds leaves valid settings -/
  valid : ∀ (c c' : Config) (a : Archive), c.restore a = .ok c' → c'.validate = none
  /-- a restore while a run is current is refused -/
  running : ∀ (lab : Lab τ σ) (a : Archive), lab.sim.run.isSome →
    lab.restore a = (lab, some (.around "restore: " (.condition .alreadyRunning) ""))
  /-- a restore that fails leaves the lab as it was -/
  failed : ∀ (lab : Lab τ σ) (a : Archive), (lab.restore a).2.isSome → (lab.restore a).1 = lab
  /-- a restore that succeeds replaces the settings alone -/
  restored : ∀ (lab : Lab τ σ) (a : Archive), (lab.restore a).2 = none →
    ∃ c, lab.sim.cfg.restore a = .ok c ∧ (lab.restore a).1 = lab.modifySim fun s => { s with cfg := c }

end Multibody.Sim
