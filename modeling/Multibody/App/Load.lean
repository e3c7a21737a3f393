import Multibody.App.ConfigText
import Multibody.CommandLine.Flags
import Multibody.Store.Files

/-!
# Settings of a command

A command's settings are laid in layers: the defaults with the world named
on the command line, or the named preset of that world; then a settings
file, read over the defaults (so a file replaces a preset as a whole); then
every flag given on the command line.  A flag left out changes nothing, even
where its default differs from the layers below.  The data directory comes
from its flag when given or when no layer set one.  The result must be
valid settings.
-/

namespace Multibody.App

open CommandLine

/-- A list of names as a bracketed, space-separated text. -/
def bracketed (names : List String) : String := "[" ++ " ".intercalate names ++ "]"

/-- Tracing turned on by the trace flag: to the named file, or to the error
stream for `-`. -/
def TracingSettings.fromFlag (t : TracingSettings) (v : String) : TracingSettings :=
  { t with enabled := true, output := if v == "-" then "" else v }

/-- Reads a settings file over the defaults. -/
def loadFile (files : Store.Files) (path : String) : Except String AppConfig := do
  let text ← files.readFile path
  match Yaml.decodeText AppConfig.decoder text {} with
  | .ok c => return c
  | .error e => throw ("parse " ++ path ++ ": " ++ e)

/-- A flag that, given on the command line, lays its value over one field of
the settings. -/
structure FlagSetting where
  name : String
  set : Parsed → AppConfig → Except String AppConfig

/-- The flags laid over the settings, in the order they are applied. -/
def flagSettings : List FlagSetting := [
  ⟨"dt", fun p c => pure { c with sim := { c.sim with timeStep := p.float "dt" } }⟩,
  ⟨"time", fun p c =>
    pure { c with sim := { c.sim with timeRange := .specified, timeLength := p.float "time" } }⟩,
  ⟨"theta", fun p c => pure { c with model := { c.model with theta := p.float "theta" } }⟩,
  ⟨"theta2", fun p c => pure { c with model := { c.model with theta2 := p.float "theta2" } }⟩,
  ⟨"links", fun p c => pure { c with model := { c.model with links := p.int "links" } }⟩,
  ⟨"count", fun p c => pure { c with model := { c.model with count := p.int "count" } }⟩,
  ⟨"hover", fun p c => pure { c with model := { c.model with hover := p.bool "hover" } }⟩,
  ⟨"integrator", fun p c => pure { c with integrator := p.text "integrator" }⟩,
  ⟨"controller", fun p c => pure { c with controller := p.text "controller" }⟩,
  ⟨"kp", fun p c =>
    pure { c with controllerParams := { c.controllerParams with kp := p.float "kp" } }⟩,
  ⟨"ki", fun p c =>
    pure { c with controllerParams := { c.controllerParams with ki := p.float "ki" } }⟩,
  ⟨"kd", fun p c =>
    pure { c with controllerParams := { c.controllerParams with kd := p.float "kd" } }⟩,
  ⟨"target", fun p c =>
    pure { c with controllerParams := { c.controllerParams with target := p.float "target" } }⟩,
  ⟨"contacts", fun p c => pure { c with contacts := p.bool "contacts" }⟩,
  ⟨"recording", fun p c => do
    let mode ← Sim.RecordingMode.parse (p.text "recording")
    pure { c with sim := { c.sim with recording := mode } }⟩,
  ⟨"tail", fun p c => pure { c with sim := { c.sim with tailFrames := p.int "tail" } }⟩,
  ⟨"realtime", fun p c => pure { c with sim := { c.sim with realtimeSync := p.bool "realtime" } }⟩,
  ⟨"metrics-addr", fun p c => pure { c with metricsAddr := p.text "metrics-addr" }⟩,
  ⟨"log-level", fun p c =>
    pure { c with logging := { c.logging with level := p.text "log-level" } }⟩,
  ⟨"trace", fun p c => pure { c with tracing := c.tracing.fromFlag (p.text "trace") }⟩]

/-- Lays the flags given on a command line over settings, each in the order of
`flagSettings`; the data directory comes from its flag also when no layer set
one. -/
def applyFlags (p : Parsed) (cfg : AppConfig) : Except String AppConfig := do
  let c ← flagSettings.foldlM (fun c f => if p.changed f.name then f.set p c else pure c) cfg
  return if p.changed "data" || c.dataDir.isEmpty then { c with dataDir := p.text "data" } else c

/-- The settings of a command: defaults or preset, settings file, flags;
`args` are the command's positional arguments, the first naming the world. -/
def loadConfig (files : Store.Files) (p : Parsed) (args : List String) : Except String AppConfig := do
  let mut cfg : AppConfig := {}
  if let some w := args.head? then cfg := { cfg with world := w }
  let presetName := p.text "preset"
  if !presetName.isEmpty then
    match preset? cfg.world presetName with
    | some c => cfg := c
    | none =>
      throw ("unknown preset: " ++ presetName ++ " (available: " ++
        bracketed ((presetNames? cfg.world).getD []) ++ ")")
  let path := p.text "config"
  if !path.isEmpty then
    match loadFile files path with
    | .ok c => cfg := match args.head? with
        | some w => { c with world := w }
        | none => c
    | .error e => throw ("failed to load config: " ++ e)
  let layered ← applyFlags p cfg
  if let some f := layered.validate then throw f.message
  return layered

end Multibody.App
