import Multibody.Api.Collector
import Multibody.Api.Dump
import Multibody.App.Tracing

/-!
# Tracing as a request

The `tracing` request sets tracing up from its settings, optionally runs a
session traced by it, ends it as many times as asked, and answers the
settings' problem, the set-up error or the session's outcome, the spans
written, and the log lines.  A run's id in a span is written `<id>`.
-/

namespace Multibody.Api

open App Log

/-- A span's JSON with its run id masked. -/
def maskRunId (j : Json) : Json :=
  match j with
  | .obj fs => .obj (fs.map fun (k, v) =>
      if k == "attributes" then
        (k, match v with
          | .obj attrs => .obj (attrs.map fun (a, x) => if a == "sim.run_id" then (a, .str "<id>") else (a, x))
          | other => other)
      else (k, v))
  | other => other

mutual

/-- JSON text with spaced separators, members in the order given. -/
def spacedText : Json → String
  | .obj fs => "\x7b" ++ ", ".intercalate (spacedFields fs) ++ "\x7d"
  | .arr xs => "[" ++ ", ".intercalate (spacedItems xs) ++ "]"
  | j => Json.compact Json.Style.spelled j

/-- The members of an object as text. -/
def spacedFields : List (String × Json) → List String
  | [] => []
  | (k, v) :: rest => (Json.quote k ++ ": " ++ spacedText v) :: spacedFields rest

/-- The items of an array as text. -/
def spacedItems : List Json → List String
  | [] => []
  | x :: rest => spacedText x :: spacedItems rest

end

/-- The order key of a span: its text with every object's keys sorted. -/
def sortedText (j : Json) : String := spacedText (Json.sorted j)

/-- Spans from an exporter's text, masked and in order. -/
def spansJson (text : String) : Json :=
  .arr (((spansOfText text).map maskRunId).mergeSort fun a b => decide (sortedText a ≤ sortedText b))

/-- The `tracing` request. -/
def tracingAnswer (req : Json) : Reply Json := do
  let cj := object req "config"
  let settings : TracingSettings :=
    { enabled := ← bool cj "enabled" false, output := ← str cj "output" "",
      serviceName := ← str cj "service_name" "dynsim", sampleRatio := ← float cj "sample_ratio" 1.0 }
  let quiet ← bool req "nil_logger" false
  let validate : Json := match settings.problem? with
    | some f => .str f.message
    | none => .null
  let logsOf (log : Logger) : Json := if quiet then .arr [] else .arr (log.lines.toList.map .str)
  match Tracing.start settings {} { min := .debug } with
  | .error e => return .obj [("validate", validate), ("error", .str e), ("logs", logsOf {})]
  | .ok (tracing?, files, log) =>
    let mut extra : List (String × Json) := []
    let mut spans : List Observe.Span := []
    if req.has "args" then
      match ← requestConfig req with
      | .error e => extra := [("session", .str e)]
      | .ok cfg =>
        let tracer := tracing?.map Tracing.tracer
        match (App.Session.create cfg none tracer () : Except String (App.Session Empty Unit)) with
        | .error e => extra := [("session", .str e)]
        | .ok s =>
          let mut s := s
          for _ in [0:(← count req "runs")] do
            let (s', err) := s.start {}
            s := s'
            match err with
            | some e =>
              extra := [("start", .str e)]
              break
            | none => extra := [("finish", runEndJson s.finish)]
          spans := ((s.rig.sim.tracer.map (·.spans.toList)).getD [])
    let mut files := files
    let mut log := log
    let mut errText := ""
    match tracing? with
    | none => pure ()
    | some tr =>
      let mut tr := tr
      for _ in [0:(← count req "shutdowns")] do
        let (tr', files', errText', log') := tr.finish spans files errText log
        tr := tr'
        files := files'
        errText := errText'
        log := log'
      let text := match tr.output with
        | some path => (files.readFile path).toOption.getD ""
        | none => errText
      extra := extra ++ [("spans", spansJson text)]
    return .obj ([("validate", validate), ("logs", logsOf log)] ++ extra)

end Multibody.Api
