import Multibody.Api.Fields
import Multibody.App.Load
import Multibody.App.Session
import Multibody.App.Program

/-!
# The simulator's instruments as a request

The `collector` request registers instruments of its own first, then the
simulator's instruments, drives their setters, and optionally runs a
session that reports to them.  It answers the registrations' outcomes, the
gathered families and their text exposition.  After a run, readings that
follow the wall clock (step times and flush counts) are left out.
-/

namespace Multibody.Api

open Observe App CommandLine

/-- The instrument a request registers up front. -/
def preInstrument (j : Json) : Reply Instrument := do
  let name ← str j "name" ""
  let help ← str j "help" ""
  match ← str j "type" "gauge" with
  | "gauge" => return { name, help, kind := .gauge }
  | "counter" => return { name, help, kind := .counter }
  | "histogram" => return { name, help, kind := .histogram }
  | "summary" => return { name, help, kind := .summary }
  | "counter_vec" => return { name, help, kind := .counterFamily, labelNames := ["outcome"] }
  | "gauge_vec" => return { name, help, kind := .gaugeFamily, labelNames := ["outcome"] }
  | other => throw (badInput ("unknown collector type " ++ other))

/-- Registers an instrument, answering null or why it was refused. -/
def registerAnswer (r : Registry) (i : Instrument) : Registry × Json :=
  match r.register i with
  | .ok (r, .added _) => (r, .null)
  | .ok (r, .existing _) => (r, .str "duplicate metrics collector registration attempted")
  | .error e => (r, .str e)

/-- Applies one setter call. -/
def meterCall (m : Meter) (j : Json) : Reply Meter := do
  match ← str j "do" "" with
  | "state" => return m.setState (← int j "n" 0)
  | "frame" => return m.setFrame (← int j "n" 0)
  | "active" => return m.setActive (← nat j "n" 0)
  | "step" => return m.observeStep (← int j "ns" 0)
  | "flush" => return m.observeFlush (← int j "n" 0)
  | "failure" => return m.incFailures
  | "run" => return m.incRuns (← bool j "abnormal" false)
  | other => throw (badInput ("unknown call " ++ other))

/-- Whether a family's readings follow the wall clock once a session ran. -/
def clockBound (name : String) : Bool :=
  name == "simulator_step_duration_seconds" || name == "simulator_flushes_total"

/-- A gathered sample as JSON; `masked` leaves out the clock-bound parts. -/
def sampleJson (masked : Bool) (s : Sample) : Json :=
  let labels : Json := .obj (s.labels.map fun (k, v) => (k, .str v))
  let parts : List (String × Json) :=
    (if masked then [] else (s.value.map fun v => ("value", Json.num v)).toList) ++
    ((s.count.map fun c => ("count", Json.int c)).toList) ++
    (if masked then [] else (s.sum.map fun v => ("sum", Json.num v)).toList) ++
    (if masked then [] else (s.buckets.map fun bs =>
      ("buckets", Json.arr (bs.map fun (ub, c) => .arr [.num ub, .int c]))).toList)
  .obj ([("labels", labels)] ++ parts)

/-- The gathered families as JSON. -/
def familiesJson (afterRun : Bool) (r : Registry) : Json :=
  .arr (r.gather.map fun f =>
    .obj [("name", .str f.name), ("help", .str f.help), ("type", .str f.kind.upper),
      ("metrics", .arr (f.samples.map (sampleJson (afterRun && clockBound f.name))))])

/-- The exposition without the lines that follow the wall clock. -/
def steadyExposition (r : Registry) : String :=
  let keep (line : String) : Bool :=
    !(line.startsWith "simulator_step_duration_seconds_bucket" ||
      line.startsWith "simulator_step_duration_seconds_sum" ||
      line.startsWith "simulator_flushes_total ")
  String.join (((r.exposition.splitOn "\n").filter fun l => !l.isEmpty && keep l).map (· ++ "\n"))

/-- How a session's run ended, as JSON. -/
def runEndJson (f : Finish) : Json :=
  .obj [("frame", .int f.frame), ("time", .num f.time), ("abnormal", .bool f.abnormal),
    ("error", Json.optStr f.error)]

/-- A session's settings from the request's flags and settings text, as
the `run` command reads them. -/
def requestConfig (req : Json) : Reply (Except String AppConfig) := do
  let args ← (list req "args").mapM fun a =>
    match a with
    | .str s => Except.ok s
    | _ => .error (badInput "field args: not a string")
  let yaml ← str? req "yaml"
  let (files, args) := match yaml with
    | some text =>
      let fs : Store.Files := {}
      ((fs.writeFile "<config>" text).toOption.getD fs, ["--config", "<config>"] ++ args)
    | none => ({}, args)
  return match parseFlags runCommandFlags args with
    | .error e => .error e.message
    | .ok parsed => loadConfig files parsed parsed.args

/-- The `collector` request. -/
def collectorAnswer (req : Json) : Reply Json := do
  if ← bool req "nil" false then
    return .obj [("gatherer_nil", .bool true), ("handler_nil", .bool false)]
  if ← bool req "nil_registerer" false then
    return .obj [("default_gatherer", .bool true)]
  let registererOnly ← bool req "registerer_only" false
  let mut reg : Registry := {}
  let mut pre : Array Json := #[]
  for j in list req "pre" do
    let (r, answer) := registerAnswer reg (← preInstrument j)
    reg := r
    pre := pre.push answer
  let mut meter? : Option Meter := none
  for _ in [0:(← count req "times")] do
    match Meter.create reg with
    | .ok m =>
      reg := m.registry
      meter? := some m
    | .error e => return .obj [("pre", .arr pre.toList), ("error", .str e)]
  let some meter := meter? | return .obj [("pre", .arr pre.toList)]
  let mut meter := meter
  for j in list req "calls" do
    meter ← meterCall meter j
  let tail : List (String × Json) := [("default_gatherer", .bool registererOnly)]
  if registererOnly then return .obj ([("pre", .arr pre.toList)] ++ tail)
  let mut extra : List (String × Json) := []
  let ran := req.has "args"
  if ran then
    match ← requestConfig req with
    | .error e => return .obj ([("pre", .arr pre.toList), ("error", .str e)] ++ tail)
    | .ok cfg =>
      match (App.Session.create cfg (some meter) none () : Except String (App.Session Empty Unit)) with
      | .error e => return .obj ([("pre", .arr pre.toList), ("session", .str e)] ++ tail)
      | .ok s =>
        let mut s := s
        for _ in [0:(← count req "runs")] do
          let (s', err) := s.start {}
          s := s'
          match err with
          | some e =>
            extra := [("start", .str e)]
            break
          | none => extra := [("finish", runEndJson s.finish)]
        meter := s.rig.sim.meter.getD meter
  let gathered := meter.registry
  let text := if ran then steadyExposition gathered else gathered.exposition
  return .obj ([("pre", .arr pre.toList), ("metrics", familiesJson ran gathered), ("text", .str text)] ++
    extra ++ tail)

end Multibody.Api
