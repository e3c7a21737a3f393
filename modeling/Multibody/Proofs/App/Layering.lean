import Mathlib
import Multibody.App.Load

/-!
# Layers of a command's settings

`SettingsBase` describes the settings below the flags: the defaults, a named
preset, or a file over the defaults (a file replaces a preset whole).
`applyFlags_eq_ok_iff` describes the flag layer, and `loadConfig_layers`
both with validation: a command's settings are exactly the valid results of
the layers.
-/

namespace Multibody.App

open CommandLine

/-! ## The settings below the flags -/

/-- The settings with the world named by the first positional argument, if any. -/
def withWorldArg (args : List String) (c : AppConfig) : AppConfig :=
  match args.head? with
  | some w => { c with world := w }
  | none => c

/-- The settings below the flags: the defaults with the world argument, or the
named preset of that world instead; a settings file, read over the defaults,
replaces either, the world argument kept over the file's world.  A named preset
must exist even where a file replaces it. -/
inductive SettingsBase (files : Store.Files) (p : Parsed) (args : List String) :
    AppConfig → Prop
  | defaults : p.text "preset" = "" → p.text "config" = "" →
      SettingsBase files p args (withWorldArg args {})
  | preset {c : AppConfig} : p.text "preset" ≠ "" →
      preset? (withWorldArg args {}).world (p.text "preset") = some c → p.text "config" = "" →
      SettingsBase files p args c
  | file {c : AppConfig} :
      (p.text "preset" = "" ∨ ∃ c', preset? (withWorldArg args {}).world (p.text "preset") = some c') →
      p.text "config" ≠ "" → loadFile files (p.text "config") = .ok c →
      SettingsBase files p args (withWorldArg args c)

theorem settingsBase_iff_defaults {files : Store.Files} {p : Parsed} {args : List String}
    {base : AppConfig} (hpre : p.text "preset" = "") (hcfg : p.text "config" = "") :
    SettingsBase files p args base ↔ base = withWorldArg args {} := by
  constructor
  · rintro (⟨-, -⟩ | ⟨hne, -, -⟩ | ⟨-, hne, -⟩)
    · rfl
    · exact absurd hpre hne
    · exact absurd hcfg hne
  · rintro rfl
    exact .defaults hpre hcfg

theorem settingsBase_iff_preset {files : Store.Files} {p : Parsed} {args : List String}
    {base : AppConfig} (hpre : p.text "preset" ≠ "") (hcfg : p.text "config" = "") :
    SettingsBase files p args base ↔
      preset? (withWorldArg args {}).world (p.text "preset") = some base := by
  constructor
  · rintro (⟨h, -⟩ | ⟨-, h, -⟩ | ⟨-, hne, -⟩)
    · exact absurd h hpre
    · exact h
    · exact absurd hcfg hne
  · intro h
    exact .preset hpre h hcfg

theorem settingsBase_iff_file {files : Store.Files} {p : Parsed} {args : List String}
    {base : AppConfig} (hcfg : p.text "config" ≠ "") :
    SettingsBase files p args base ↔
      (p.text "preset" = "" ∨ ∃ c', preset? (withWorldArg args {}).world (p.text "preset") = some c') ∧
        ∃ c, loadFile files (p.text "config") = .ok c ∧ base = withWorldArg args c := by
  constructor
  · rintro (⟨-, h⟩ | ⟨-, -, h⟩ | ⟨hpre, -, hload⟩)
    · exact absurd h hcfg
    · exact absurd h hcfg
    · exact ⟨hpre, _, hload, rfl⟩
  · rintro ⟨hpre, c, hload, rfl⟩
    exact .file hpre hcfg hload

@[simp] theorem error_bind {ε α β : Type} (e : ε) (f : α → Except ε β) :
    (Except.error e >>= f) = .error e := rfl

theorem bind_eq_ok_iff_of_validates {r : Except String AppConfig}
    {k : AppConfig → Except String AppConfig} {c : AppConfig}
    (hk : ∀ l, k l = .ok c ↔ l = c ∧ c.validate = none) :
    (r >>= k) = .ok c ↔ r = .ok c ∧ c.validate = none := by
  rcases r with e | l
  · simp [bind, Except.bind]
  · simp only [bind, Except.bind, hk, Except.ok.injEq]

theorem loadConfig_eq_ok_iff (files : Store.Files) (p : Parsed) (args : List String)
    (c : AppConfig) :
    loadConfig files p args = .ok c ↔
      ∃ base, SettingsBase files p args base ∧ applyFlags p base = .ok c ∧ c.validate = none := by
  -- the layers below the flags, case by case; each case that reaches the flags
  -- is left for the validation below
  by_cases hpre : p.text "preset" = "" <;> by_cases hcfg : p.text "config" = "" <;> [
    -- neither preset nor file
    (simp only [settingsBase_iff_defaults hpre hcfg, exists_eq_left]
     rcases hh : args.head? with _ | w <;> simp [loadConfig, hpre, hcfg, hh, withWorldArg]);
    -- a file, no preset
    (simp only [settingsBase_iff_file hcfg, hpre, true_or, true_and]
     rcases hload : loadFile files (p.text "config") with e | cf <;>
       rcases hh : args.head? with _ | w <;>
       simp [loadConfig, hpre, hcfg, hh, hload, withWorldArg, throw, throwThe,
         MonadExceptOf.throw]);
    -- a preset, no file
    (simp only [settingsBase_iff_preset hpre hcfg]
     rcases hp : preset? (withWorldArg args {}).world (p.text "preset") with _ | cp <;>
       rcases hh : args.head? with _ | w <;>
       simp only [withWorldArg, hh] at hp <;>
       simp [loadConfig, hpre, hcfg, hh, hp, throw, throwThe, MonadExceptOf.throw]);
    -- a preset and a file: the file replaces the preset
    (simp only [settingsBase_iff_file hcfg, hpre, false_or]
     rcases hp : preset? (withWorldArg args {}).world (p.text "preset") with _ | cp <;>
       rcases hload : loadFile files (p.text "config") with e | cf <;>
       rcases hh : args.head? with _ | w <;>
       simp only [withWorldArg, hh] at hp <;>
       simp [loadConfig, hpre, hcfg, hh, hp, hload, withWorldArg, throw, throwThe,
         MonadExceptOf.throw])]
  all_goals
    refine bind_eq_ok_iff_of_validates fun l => ?_
    split
    · rename_i hv
      simp only [throw, throwThe, MonadExceptOf.throw, Functor.map, Except.map, reduceCtorEq,
        false_iff, not_and]
      rintro rfl
      simp [hv]
    · rename_i hv
      simp only [pure, Except.pure, Except.ok.injEq]
      constructor
      · rintro rfl
        exact ⟨rfl, Option.eq_none_iff_forall_ne_some.mpr hv⟩
      · exact And.left

/-! ## The flag layer -/

/-- The flags given on a command line, in the order they are laid. -/
def givenFlags (p : Parsed) : List FlagSetting :=
  flagSettings.filter fun f => p.changed f.name

theorem foldlM_given (p : Parsed) (l : List FlagSetting) (c : AppConfig) :
    l.foldlM (fun c f => if p.changed f.name then f.set p c else pure c) c =
      (l.filter fun f => p.changed f.name).foldlM (fun c f => f.set p c) c := by
  induction l generalizing c with
  | nil => rfl
  | cons f l ih =>
    by_cases hf : p.changed f.name = true
    · simp only [List.foldlM_cons, List.filter_cons, hf, if_true, ih]
    · simp only [List.foldlM_cons, List.filter_cons, hf, Bool.false_eq_true, if_false, pure_bind, ih]

theorem dataDir_set (p : Parsed) :
    ∀ f ∈ flagSettings, ∀ c c', f.set p c = .ok c' → c'.dataDir = c.dataDir := by
  simp [flagSettings, pure, Except.pure]
  -- what is left is the recording flag, which fails on a mode it cannot parse
  intro c c'
  rcases Sim.RecordingMode.parse (p.text "recording") with e | mode
  · simp [bind, Except.bind]
  · rintro ⟨⟩
    rfl

theorem dataDir_foldlM_set {p : Parsed} {l : List FlagSetting} (hl : ∀ f ∈ l, f ∈ flagSettings)
    {c c' : AppConfig} (h : l.foldlM (fun c f => f.set p c) c = .ok c') : c'.dataDir = c.dataDir := by
  induction l generalizing c with
  | nil =>
    cases h
    rfl
  | cons f l ih =>
    rw [List.foldlM_cons] at h
    rcases hf : f.set p c with e | d
    · simp [hf, bind, Except.bind] at h
    · simp only [hf, bind, Except.bind] at h
      calc c'.dataDir = d.dataDir := ih (fun g hg => hl g (List.mem_cons_of_mem f hg)) h
        _ = c.dataDir := dataDir_set p f (hl f List.mem_cons_self) c d hf

theorem applyFlags_eq_ok_iff (p : Parsed) (base c : AppConfig) :
    applyFlags p base = .ok c ↔
      ∃ flagged, (givenFlags p).foldlM (fun c f => f.set p c) base = .ok flagged ∧
        c = if p.changed "data" || base.dataDir.isEmpty then { flagged with dataDir := p.text "data" }
          else flagged := by
  rw [applyFlags, foldlM_given, ← givenFlags]
  rcases h : (givenFlags p).foldlM (fun c f => f.set p c) base with e | flagged
  · simp [h, bind, Except.bind]
  · have hdata : flagged.dataDir = base.dataDir :=
      dataDir_foldlM_set (fun f hf => List.mem_of_mem_filter hf) h
    simp only [h, bind, Except.bind, pure, Except.pure, Except.ok.injEq, exists_eq_left', hdata]
    exact eq_comm

/-! ## All the layers -/

/-- Every settings a command can run with: the base (defaults with the world
argument, or the named preset, or a settings file read over the defaults with
the world argument kept, the file replacing any preset), then exactly the flags
given, then the data directory rule; and the result is valid.  Every other
outcome is an error. -/
theorem loadConfig_layers (files : Store.Files) (p : Parsed) (args : List String) (c : AppConfig) :
    loadConfig files p args = .ok c ↔
      ∃ base flagged, SettingsBase files p args base ∧
        (givenFlags p).foldlM (fun c f => f.set p c) base = .ok flagged ∧
        c = (if p.changed "data" || base.dataDir.isEmpty then { flagged with dataDir := p.text "data" }
          else flagged) ∧
        c.validate = none := by
  rw [loadConfig_eq_ok_iff]
  constructor
  · rintro ⟨base, hbase, hflags, hvalid⟩
    obtain ⟨flagged, hfold, hc⟩ := (applyFlags_eq_ok_iff p base c).mp hflags
    exact ⟨base, flagged, hbase, hfold, hc, hvalid⟩
  · rintro ⟨base, flagged, hbase, hfold, hc, hvalid⟩
    exact ⟨base, hbase, (applyFlags_eq_ok_iff p base c).mpr ⟨flagged, hfold, hc⟩, hvalid⟩

end Multibody.App
