import Multibody.App.Shell
import Multibody.App.Load
import Multibody.App.ConfigText
import Multibody.Text.Table
import Multibody.Text.Plot
import Multibody.Analysis.Portrait
import Multibody.Analysis.Spectrum
import Multibody.Analysis.Svg
import Multibody.Numeric.Extremum
import Multibody.Models.Build
import Multibody.Yaml.Emit

/-!
# Commands that look at stored runs and settings

`list` tabulates the stored runs, newest first.  `plot`, `analyze` and
`phase` read one body's track of a run (the body named by the flag, else the
first recorded one) and draw its joints against time, give each joint's
dominant frequency and range, or draw a joint's phase portrait or Poincaré
section.  `export` prints a run with its tracks as JSON.  `presets` lists
the named settings of the worlds, and `config` prints or saves the settings
the flags resolve to.

At most six joints are plotted or analysed; a joint asked for by number must
exist on the body.
-/

namespace Multibody.App

open ShellM CommandLine Decimal Store

/-- The most joints drawn or analysed. -/
def maxJoints : Nat := 6

/-- A column of a table of rows. -/
def column (rows : Array (Array Float)) (j : Nat) : Array Float := rows.map fun r => r.getD j 0.0

/-- The joints of a track: the width of its first row of positions. -/
def jointCount (s : Series) : Nat := (s.q.getD 0 #[]).size

/-- Lines laid out in aligned columns, each ended by a newline. -/
def tableText (lines : List String) : String :=
  String.join ((Text.tabulate 2 lines).map (· ++ "\n"))

/-- The `list` command: the stored runs. -/
def listCommand (p : Parsed) : ShellM Unit := do
  let runs ← orFail ((← files).listRuns (p.text "data"))
  if runs.isEmpty then
    say "no runs found\n"
    return
  let rows := runs.map fun r =>
    "\t".intercalate [r.id, r.world, r.timestamp.dateTimeText, toString r.frames,
      fixed 2 r.duration ++ "s", fixed 4 r.timeStep ++ "s", r.integrator, r.controller,
      if r.abnormal then "abnormal" else "ok"]
  say (tableText ("ID\tWORLD\tTIME\tFRAMES\tDURATION\tDT\tINTEG\tCTRL\tSTATUS" :: rows))

/-- A track that cannot be read ends the command; a malformed row breaks it
down. -/
def orTrackFail {α : Type} (r : Except TrackError α) : ShellM α :=
  match r with
  | .ok a => pure a
  | .error (.failed m) => fail m
  | .error (.fault f) => throw (.breakdown f.message)

/-- The run, body name and track that `plot`, `analyze` and `phase` look at. -/
def loadSeries (p : Parsed) (runId : String) : ShellM (RunMetadata × String × Series) := do
  let dataDir := p.text "data"
  let md ← orFail ((← files).loadRun dataDir runId)
  let bodies := md.bodies.getD []
  if bodies.isEmpty then fail ("run " ++ runId ++ " has no recorded bodies")
  let name := if (p.text "body").isEmpty then bodies.headD "" else p.text "body"
  let series ← orTrackFail ((← files).loadTrack dataDir runId name)
  if series.frames.isEmpty then fail ("no data for body " ++ name)
  return (md, name, series)

/-- The complaint about a joint the body lacks. -/
def jointRangeError (j : Int) (joints : Nat) : String :=
  "joint " ++ toString j ++ " out of range (body has " ++ toString joints ++ ")"

/-- Prints a series as a line plot of height 10 over 80 columns. -/
def printPlot (data : Array Float) (caption : String) : ShellM Unit :=
  match Text.plot data { height := 10, width := 80, caption } with
  | .ok graph => say (graph ++ "\n\n")
  | .error e => throw (.breakdown e)

/-- Writes a series against time as a picture to the file the flag names. -/
def writeSeriesSvg (p : Parsed) (times values : Array Float) : ShellM Unit := do
  let path := p.text "svg"
  if path.isEmpty then return
  setFiles (← orFail ((← files).writeFile path ""))
  let svg := Analysis.trajectorySvg (Analysis.portrait times values) 800 400 ""
  if svg.isEmpty then fail "export: need at least two samples"
  setFiles (← orFail ((← files).writeFile path svg))
  say ("wrote " ++ path ++ "\n")

/-- The `plot` command: the joints of a body against time, or its height when it has
none. -/
def plotCommand (p : Parsed) : ShellM Unit := do
  let (md, name, series) ← loadSeries p (p.args.headD "")
  say ("run: " ++ md.id ++ "\nworld: " ++ md.world ++ "\nbody: " ++ name ++ "\nsamples: " ++
    toString series.frames.size ++ "\n\n")
  let joints := jointCount series
  if joints == 0 then
    let data := series.root.map (·.z)
    printPlot data "root height"
    writeSeriesSvg p series.times data
    return
  let chosen := p.int "joint"
  let (first, last) ← if chosen ≥ 0 then
      if chosen ≥ joints then fail (jointRangeError chosen joints)
      else pure (chosen.toNat, chosen.toNat + 1)
    else pure (0, min joints maxJoints)
  for j in [first:last] do
    let data := column series.q j
    printPlot data ("q" ++ toString j ++ " vs time")
    if j == first then writeSeriesSvg p series.times data

/-- The row of a joint in the frequency table. -/
def frequencyRow (j : Nat) (q : Array Float) (dt : Float) : String :=
  let first := q.getD 0 0.0
  let lo := q.foldl Numeric.fmin first
  let hi := q.foldl Numeric.fmax first
  let head := "q" ++ toString j
  match Analysis.dominantFrequency q dt with
  | some f =>
    if f == 0.0 then head ++ "\t-\t-\t" ++ fixed 4 lo ++ "\t" ++ fixed 4 hi
    else head ++ "\t" ++ fixed 4 f ++ " Hz\t" ++ fixed 4 (1.0 / f) ++ "s\t" ++ fixed 4 lo ++ "\t" ++ fixed 4 hi
  | none => head ++ "\t-\t-\t" ++ fixed 4 lo ++ "\t" ++ fixed 4 hi

/-- The `analyze` command: each joint's dominant frequency and range, and the run's
metrics. -/
def analyzeCommand (p : Parsed) : ShellM Unit := do
  let (md, name, series) ← loadSeries p (p.args.headD "")
  say ("run: " ++ md.id ++ "\nbody: " ++ name ++ "\n\n")
  let rows := (List.range (min (jointCount series) maxJoints)).map fun j =>
    frequencyRow j (column series.q j) md.timeStep
  say (tableText ("JOINT\tFREQ\tPERIOD\tMIN\tMAX" :: rows))
  let metrics := sortedMetrics (md.metrics.getD [])
  if !metrics.isEmpty then
    say ("\nmetrics:\n" ++ String.join (metrics.map fun (k, v) => "  " ++ k ++ ": " ++ fixed 6 v ++ "\n"))

/-- The `phase` command: a joint's phase portrait, or its Poincaré section where another
joint crosses zero. -/
def phaseCommand (p : Parsed) : ShellM Unit := do
  let (_, name, series) ← loadSeries p (p.args.headD "")
  let joints := jointCount series
  let j := max (p.int "joint") 0
  if j ≥ joints then fail (jointRangeError j joints)
  let q := column series.q j.toNat
  let dq := column series.dq j.toNat
  let crossing := p.int "poincare"
  let (pts, title) ← if crossing ≥ 0 then
      if crossing ≥ joints then fail (jointRangeError crossing joints)
      else
        let pts := Analysis.poincareSection (column series.q crossing.toNat) q dq 0.0
        pure (pts, name ++ " poincare section at q" ++ toString crossing ++ " = 0 (" ++
          toString pts.size ++ " crossings)")
    else pure (Analysis.portrait q dq, name ++ " q" ++ toString j ++ " vs dq" ++ toString j)
  say (title ++ "\n")
  match Analysis.asciiPortrait pts 70 25 with
  | .ok text => say text
  | .error f => throw (.breakdown f.message)
  let path := p.text "svg"
  if !path.isEmpty then
    setFiles (← orFail ((← files).writeFile path (Analysis.trajectorySvg pts 600 600 "")))
    say ("wrote " ++ path ++ "\n")

/-- The `export` command: a run with its tracks as JSON. -/
def exportCommand (p : Parsed) : ShellM Unit := do
  say (← orTrackFail ((← files).exportRun (p.text "data") (p.args.headD "")))

/-- The `presets` command: the named settings of every world, or of the one given. -/
def presetsCommand (p : Parsed) : ShellM Unit := do
  let worlds := if p.args.isEmpty then Assembly.modelNames else p.args.take 1
  for world in worlds do
    match presetNames? world with
    | some names@(_ :: _) =>
      say ("presets for " ++ world ++ ":\n" ++ String.join (names.map fun n => "  " ++ n ++ "\n"))
    | _ => if !p.args.isEmpty then say ("no presets for world: " ++ world ++ "\n")

/-- The `config` command: the settings the flags resolve to, printed or saved. -/
def configCommand (p : Parsed) : ShellM Unit := do
  let cfg ← orFail (loadConfig (← files) p [])
  match p.args.head? with
  | some path =>
    setFiles (← orFail ((← files).writeFile path (Yaml.render 4 cfg.toPiece)))
    say ("saved " ++ path ++ "\n")
  | none => say (Yaml.render 2 cfg.toPiece)

end Multibody.App
