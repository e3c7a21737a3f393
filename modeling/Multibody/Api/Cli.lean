import Multibody.Api.Tracing
import Multibody.App.Execute
import Multibody.Text.Uuid

/-!
# The command line as a request

The `cli` request runs command lines one after another in one fresh working
directory.  Files are written before the steps and before the step that
lists them, their directories created.  Words `@runN` and `@last` in a
command line stand for the id of the `N`-th oldest stored run and of the
newest, or `none` without such a run.

Each step answers its exit status, output and error lines, and, when asked,
the text of files after it, the number of stored runs and the spans of a
trace file.  What differs from one run to the next is masked: run ids,
elapsed and wall-clock times, timestamps, and the rates of ensembles.
-/

namespace Multibody.Api

open App Store

/-- Substitutes in a text from the left: where `step` matches at the front, what
it answers replaces what it consumed; other characters are kept.  Each match
consumes at least one character, so the length bounds the passes. -/
def substituteChars (step : List Char → Option (List Char × List Char)) : Nat → List Char → List Char
  | 0, cs => cs
  | _, [] => []
  | fuel + 1, c :: cs =>
    match step (c :: cs) with
    | some (out, rest) => out ++ substituteChars step fuel rest
    | none => c :: substituteChars step fuel cs

/-- A text with `step` substituted throughout. -/
def substituteText (step : List Char → Option (List Char × List Char)) (s : String) : String :=
  String.ofList (substituteChars step (s.length + 1) s.toList)

/-- Masks what follows a marker: `span` answers the rest after the masked
part, or nothing when the marker is not followed by something to mask. -/
def maskAfter (marker replacement : String) (span : List Char → Option (List Char)) (s : String) : String :=
  let m := marker.toList
  substituteText (fun cs =>
    if m.isPrefixOf cs then (span (cs.drop m.length)).map fun rest => (m ++ replacement.toList, rest)
    else none) s

/-- The rest of a line, masked whatever it holds. -/
def restOfLine (cs : List Char) : Option (List Char) := some (cs.dropWhile (· != '\n'))

/-- A quoted text, masked up to its closing quote. -/
def untilQuote (cs : List Char) : Option (List Char) :=
  match cs.dropWhile (· != '"') with
  | [] => none
  | rest => some rest

/-- One or more digits. -/
def digitsAhead (cs : List Char) : Option (List Char) :=
  if (cs.head?.map Char.isDigit).getD false then some (cs.dropWhile Char.isDigit) else none

/-- The rest of a line up to a suffix on it. -/
def untilOnLine (suffix : String) (cs : List Char) : Option (List Char) :=
  let line := cs.takeWhile (· != '\n')
  let s := suffix.toList
  ((List.range (line.length + 1)).find? fun k => s.isPrefixOf (cs.drop k)).map fun k => cs.drop k

/-- Whether characters have the shape `YYYY-MM-DD HH:MM:SS`. -/
def clockShape (cs : List Char) : Bool :=
  let shape := "dddd-dd-dd dd:dd:dd".toList
  cs.length ≥ shape.length &&
    (shape.zip cs).all fun (p, c) => if p == 'd' then c.isDigit else p == c

/-- Wall-clock date and time shown as `<time>`. -/
def maskClock (s : String) : String :=
  substituteText (fun cs => if clockShape cs then some ("<time>".toList, cs.drop 19) else none) s

/-- A text with every varying part masked. -/
def maskVarying (s : String) : String :=
  Text.maskUuids s
  |> maskAfter "completed in " "<elapsed>" restOfLine
  |> maskClock
  |> maskAfter "\"timestamp\": \"" "<timestamp>" untilQuote
  |> maskAfter "total, " "<rate>" (untilOnLine " frames/s")
  |> maskAfter "realtime factor: " "<factor>" restOfLine
  |> maskAfter "ensemble member " "<n>" digitsAhead

/-- Writes the files a request or step lists, creating their directories. -/
def writeListed (fs : Files) (j : Json) : Files :=
  (object j "files").fields.foldl (fun fs (path, v) =>
    let text := match v with
      | .str t => t
      | _ => ""
    let fs := (fs.makeDirs (dirPath path)).toOption.getD fs
    (fs.writeFile path text).toOption.getD fs) fs

/-- The stored runs of a directory, oldest first. -/
def runsOldestFirst (fs : Files) (dataDir : String) : List RunMetadata :=
  ((fs.listRuns dataDir).toOption.getD []).reverse

/-- A command-line word with run references resolved. -/
def resolveRunWord (runs : List RunMetadata) (word : String) : String :=
  if word == "@last" then (runs.getLast?.map (·.id)).getD "none"
  else if word.startsWith "@run" then
    match (String.ofList (word.toList.drop 4)).toNat? with
    | some n => ((runs[n]?).map (·.id)).getD "none"
    | none => word
  else word

/-- The answer of one step, and the machine after it. -/
def stepAnswer (disk : Disk) (step : Json) : Reply (Json × Disk) := do
  let disk := { disk with files := writeListed disk.files step }
  let dataDir ← str step "data_dir" "runs"
  let runs := runsOldestFirst disk.files dataDir
  let args := (list step "args").map fun a =>
    match a with
    | .str w => resolveRunWord runs w
    | _ => ""
  let (o, disk) := execute disk args
  let mut fields : List (String × Json) :=
    [("exit", .int o.exit), ("stdout", .str (maskVarying o.out)),
     ("stderr", .arr (o.errors.map fun l => .str (maskVarying l)))]
  if let some text := o.breakdown then fields := fields ++ [("panic", .str text)]
  if step.has "read" then
    let read := (list step "read").filterMap fun p =>
      match p with
      | .str path => some (path, match disk.files.readFile path with
        | .ok t => Json.str (maskVarying t)
        | .error _ => .null)
      | _ => none
    fields := fields ++ [("files", .obj read)]
  if ← bool step "runs" false then
    fields := fields ++ [("runs", .int (runsOldestFirst disk.files dataDir).length)]
  if let some (.str path) := step.get? "spans" then
    fields := fields ++ [("spans", spansJson ((disk.files.readFile path).toOption.getD ""))]
  return (.obj fields, disk)

/-- The `cli` request. -/
def cliAnswer (req : Json) : Reply Json := do
  let mut disk : Disk := { files := writeListed {} req }
  let mut answers : List Json := []
  for step in list req "steps" do
    let (a, d) ← stepAnswer disk step
    answers := answers ++ [a]
    disk := d
  return .obj [("steps", .arr answers)]

end Multibody.Api
