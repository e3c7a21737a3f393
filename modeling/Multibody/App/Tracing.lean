import Multibody.App.Config
import Multibody.Observe.Trace
import Multibody.Log.Console
import Multibody.Store.Files
import Multibody.Json.Write
import Multibody.Json.Read

/-!
# Tracing a command

When tracing is on, a command's spans go to an output file, or to the error
stream when no file is named.  Starting checks the sample ratio and creates
(or empties) the output file, and logs where spans go and which sampler keeps
them; when tracing is off it only logs that at debug level.  Ending writes
the spans kept, one JSON object per line, and closes the file: a second end
finds the file closed and says so.

Only the ratios 0 and 1 decide anything: at 0 no trace is kept, at 1 every
trace is.
-/

namespace Multibody.App

open Log Observe

/-- Tracing set up for a command: the output file (none is the error
stream) and whether traces are kept. -/
structure Tracing where
  output : Option String
  sampled : Bool
  /-- whether the output has been closed -/
  closed : Bool := false
  deriving Inhabited

/-- Sets up tracing from its settings; answers the tracing, if on, with the
files and the log after it. -/
def Tracing.start (t : TracingSettings) (files : Store.Files) (log : Logger) :
    Except String (Option Tracing × Store.Files × Logger) := do
  if !t.enabled then
    return (none, files, log.log { level := .debug, message := "tracing disabled; using noop tracer provider" })
  if let some f := t.problem? then throw f.message
  let files ← if t.output.isEmpty then pure files
    else match files.writeFile t.output "" with
      | .ok fs => pure fs
      | .error e => throw ("open trace output: " ++ e)
  let log := log.log
    { level := .info, message := "tracing enabled",
      fields := [("output", .str (if t.output.isEmpty then "stderr" else t.output)),
                 ("sampler", .str ("parentbased_traceidratio_" ++ Decimal.fixed 2 t.sampleRatio))] }
  return (some { output := if t.output.isEmpty then none else some t.output, sampled := t.sampleRatio > 0.0 },
    files, log)

/-- The tracer a simulator reports spans to under this tracing. -/
def Tracing.tracer (tr : Tracing) : Tracer := { sampled := tr.sampled }

/-- The text of spans as the exporter writes them: one JSON object a line. -/
def spansText (spans : List Span) : String :=
  String.join (spans.map fun s => Json.compact Json.Style.spelled s.toJson ++ "\n")

/-- The spans of an exporter's text. -/
def spansOfText (text : String) : List Json :=
  (text.splitOn "\n").filterMap fun line => if line.isEmpty then none else Json.parse? line

/-- Ends tracing: writes the spans kept to the output, or to the error text
for the error stream.  Ending again only finds the file closed. -/
def Tracing.finish (tr : Tracing) (spans : List Span) (files : Store.Files) (errText : String) (log : Logger) :
    Tracing × Store.Files × String × Logger :=
  if tr.closed then
    match tr.output with
    | some path =>
      let failed : Record :=
        { level := .warn, message := "tracing shutdown failed",
          fields := [("error", .str ("close " ++ path ++ ": file already closed"))] }
      (tr, files, errText, log.log failed)
    | none => (tr, files, errText, log)
  else
    let text := spansText spans
    let tr := { tr with closed := true }
    match tr.output with
    | some path =>
      let old := (files.readFile path).toOption.getD ""
      (tr, (files.writeFile path (old ++ text)).toOption.getD files, errText, log)
    | none => (tr, files, errText ++ text, log)

end Multibody.App
