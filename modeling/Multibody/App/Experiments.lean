import Multibody.App.Shell
import Multibody.App.Load
import Multibody.App.Scenario
import Multibody.Text.Table
import Multibody.Tuning.Grid

/-!
# Commands that run simulations

`run` simulates a world once, stores the run unless told not to, and prints
its metrics; an abnormal end is reported and fails the command after the
run is stored.  `bench` runs an ensemble of identical members and sums their
frames; `tune` scores every pair of controller gains on a grid by a metric
and ranks them; `scenario` runs and stores each step of a scenario file.
Ensemble members stop the command at the first that cannot start or ends
abnormally, named by its index.

Runs are stored with the world, the preset or step name, the settings that
shaped them, how they ended, their metrics, and the recorded frames of
every moving body.
-/

namespace Multibody.App

open ShellM CommandLine Decimal

/-- A session of the command line, with no chores of its own. -/
abbrev CliSession := Session Empty Unit

/-- Builds a command-line session traced by the tracing in force. -/
def openSession (cfg : AppConfig) : ShellM CliSession := do
  orFail (Session.create cfg none (← tracer) ())

/-- Carries out a session's next run; the spans it recorded are kept. -/
def runSession (s : CliSession) : ShellM (CliSession × Option String) := do
  let (s, err) := s.start {}
  collectSpans s
  return (s, err)

/-- Stores the last run of a session under the settings' data directory,
answering its id. -/
def saveRunAs (cfg : AppConfig) (label : String) (s : CliSession) (f : Finish)
    (values : List (String × Float)) : ShellM String := do
  setFiles (← orFail ((← files).makeDirs cfg.dataDir))
  let rig := s.rig
  let tracks : List Store.Track := rig.world.bodies.toList.filterMap fun i =>
    let bi := rig.items.getD i default
    if rig.assembly.isStaticModel bi.master then none
    else some { body := bi.name, frames := bi.recording.frames }
  let md : Store.RunMetadata :=
    { world := cfg.world, preset := label, timeStep := cfg.sim.timeStep, frames := f.frame,
      duration := f.time, integrator := cfg.integrator, controller := cfg.controller,
      recording := cfg.sim.recording.name, abnormal := f.abnormal, error := f.error.getD "",
      metrics := some values }
  let (disk, id) ← orFail ((← get).disk.save cfg.dataDir md tracks)
  modify fun sh => { sh with disk }
  return id

/-- The metric lines of a run. -/
def metricLines (values : List (String × Float)) : String :=
  String.join (values.map fun (n, v) => "  " ++ n ++ ": " ++ fixed 6 v ++ "\n")

/-- The `run` command: one simulation of a world. -/
def runCommand (p : Parsed) : ShellM Unit := do
  let cfg ← orFail (loadConfig (← files) p p.args)
  if cfg.sim.timeRange == .unlimited then say "time range is unlimited; press ctrl+c to stop\n"
  traced cfg.tracing do
    let s ← openSession cfg
    say ("running " ++ cfg.world ++ " simulation...\n")
    let (s, err) ← runSession s
    if let some e := err then fail e
    let f := s.finish
    say "completed in 0s\n"
    say ("frames: " ++ toString f.frame ++ " (" ++ fixed 3 f.time ++ "s simulated)\n")
    if f.abnormal then say ("finished abnormally: " ++ f.error.getD "" ++ "\n")
    let values := s.metricValues
    if !p.bool "no-save" then
      let id ← saveRunAs cfg (p.text "preset") s f values
      say ("run id: " ++ id ++ "\n")
    say ("\nmetrics:\n" ++ metricLines values)
    if f.abnormal then fail (f.error.getD "")

/-- The complaint about an ensemble member. -/
def memberError (i : Nat) (e : String) : String := "ensemble member " ++ toString i ++ ": " ++ e

/-- Runs one ensemble member to its end, answering the session after it. -/
def runMember (cfg : AppConfig) (i : Nat) : ShellM CliSession := do
  let s ← match (Session.create cfg none (← tracer) () : Except String CliSession) with
    | .ok s => pure s
    | .error e => fail (memberError i e)
  let (s, err) ← runSession s
  if let some e := err then fail (memberError i e)
  let f := s.finish
  if f.abnormal then fail (memberError i (f.error.getD ""))
  return s

/-- Settings for an ensemble: no pacing and no recording. -/
def ensembleSettings (cfg : AppConfig) : AppConfig :=
  { cfg with sim := { cfg.sim with realtimeSync := false, recording := .off } }

/-- The `bench` command: an ensemble of identical runs. -/
def benchCommand (p : Parsed) : ShellM Unit := do
  let cfg ← orFail (loadConfig (← files) p p.args)
  if cfg.sim.timeRange == .unlimited then fail "bench needs a bounded time range"
  let cfg := ensembleSettings cfg
  traced cfg.tracing do
    let n := p.int "runs"
    say ("running " ++ toString n ++ " " ++ cfg.world ++ " simulations...\n")
    if n < 0 then throw (.breakdown "runtime error: makeslice: len out of range")
    let mut frames : Int := 0
    let mut simulated : Float := 0.0
    for i in [0:n.toNat] do
      let f := (← runMember cfg i).finish
      frames := frames + f.frame
      simulated := simulated + f.time
    say "completed in 0s\n"
    say ("frames: " ++ toString frames ++ " total, 0 frames/s\n")
    say "realtime factor: 0.0x\n"

/-- The `tune` command: a grid search over controller gains. -/
def tuneCommand (p : Parsed) : ShellM Unit := do
  let cfg ← orFail (loadConfig (← files) p p.args)
  if cfg.sim.timeRange == .unlimited then fail "tune needs a bounded time range"
  let cfg := ensembleSettings (if cfg.controller == "none" then { cfg with controller := "pid" } else cfg)
  traced cfg.tracing do
    let points := Tuning.points ["kp", "kd"] [p.floats "kp-range", p.floats "kd-range"]
    let metric := p.text "metric"
    say ("tuning " ++ cfg.world ++ " over " ++ toString points.length ++ " gain pairs, minimizing " ++
      metric ++ "...\n")
    let mut scores : Array Float := #[]
    for (pt, i) in points.zip (List.range points.length) do
      let gains := { cfg.controllerParams with kp := (pt.lookup "kp").getD 0.0, kd := (pt.lookup "kd").getD 0.0 }
      let s ← runMember { cfg with controllerParams := gains } i
      scores := scores.push ((s.metricValues.lookup metric).getD (0.0 / 0.0))
    let some (bp, score) := Tuning.search points scores.toList
      | fail "optim: no grid point produced a score"
    say "completed in 0s\n\n"
    let gain (pt : Tuning.Point) (n : String) : String := fixed 3 ((pt.lookup n).getD 0.0)
    let rows := "KP\tKD\tSCORE" :: (Tuning.ranked scores.toList).map fun i =>
      let pt := points.getD i []
      gain pt "kp" ++ "\t" ++ gain pt "kd" ++ "\t" ++ fixed 6 (scores.getD i 0.0)
    say (String.join ((Text.tabulate 2 rows).map (· ++ "\n")))
    say ("\nbest: kp=" ++ gain bp "kp" ++ " kd=" ++ gain bp "kd" ++ " (" ++ metric ++ " " ++
      fixed 6 score ++ ")\n")

/-- The `scenario` command: runs and stores each step of a scenario file. -/
def scenarioCommand (p : Parsed) : ShellM Unit := do
  let path := p.args.headD ""
  let text ← orFail ((← files).readFile path)
  let sc ← match Scenario.parse text with
    | .ok sc => pure sc
    | .error e => fail (path ++ ": " ++ e)
  let tracing : TracingSettings := if p.changed "trace" then ({} : TracingSettings).fromFlag (p.text "trace") else {}
  traced tracing do
    if !sc.name.isEmpty then say ("scenario " ++ sc.name ++ ": " ++ toString sc.steps.length ++ " steps\n")
    let total := sc.steps.length
    for (step, i) in sc.steps.zip (List.range total) do
      let cfg ← orFail step.resolve
      let cfg := if p.changed "data" then { cfg with dataDir := p.text "data" } else cfg
      say ("[" ++ toString (i + 1) ++ "/" ++ toString total ++ "] " ++ step.name ++ " (" ++ cfg.world ++ ")\n")
      let s ← match (Session.create cfg none (← tracer) () : Except String CliSession) with
        | .ok s => pure s
        | .error e => fail (step.name ++ ": " ++ e)
      let (s, err) ← runSession s
      if let some e := err then fail (step.name ++ ": " ++ e)
      let f := s.finish
      let id ← saveRunAs cfg step.name s f s.metricValues
      let status := if f.abnormal then "abnormal: " ++ f.error.getD "" else "ok"
      say ("      " ++ toString f.frame ++ " frames, run " ++ id ++ ", " ++ status ++ "\n")

end Multibody.App
