import Multibody.Api.Dump
import Multibody.Store.Runs

/-!
# Stored runs as a request

The `storage` request stores one run with its tracks in a fresh data
directory and reads it back: the track files as written, each recorded body's
series, the metadata, how many runs the directory lists, and the run's JSON
export.  Tracks can be deleted and unrelated entries added before the
reading, to see how reading copes.  The run's id and the instant it was
stored vary from run to run, so answers show them as `<id>` and
`<timestamp>`.  Given `csv` text instead, the request reads that text as a
track.
-/

namespace Multibody.Api

open Store

/-- The data directory of a request. -/
def scratchDir : String := "<dir>"

/-- Every occurrence of `id` in a text shown as `<id>`. -/
def maskId (id text : String) : String := if id == "" then text else text.replace id "<id>"

/-- A series as an answer: every column, empty ones as empty lists. -/
def seriesJson (s : Series) : Json :=
  let row (r : Array Float) : Json := .arr (r.toList.map .num)
  .obj [("frames", .arr (s.frames.toList.map .int)), ("times", .arr (s.times.toList.map .num)),
    ("root", .arr (s.root.toList.map vec3Json)), ("q", .arr (s.q.toList.map row)),
    ("dq", .arr (s.dq.toList.map row)), ("u", .arr (s.u.toList.map row))]

/-- Named doubles of a request member. -/
def namedFloats (j : Json) (key : String) : Reply (List (String × Float)) :=
  (object j key).fields.mapM fun (k, v) =>
    match v.float? with
    | some x => .ok (k, x)
    | none => .error (badInput ("field " ++ key ++ "." ++ k ++ ": not a number"))

/-- The metadata a request asks to store. -/
def metadataOf (m : Json) : Reply RunMetadata := do
  return { world := ← str m "world" "", preset := ← str m "preset" "",
           timeStep := ← float m "time_step" 0.0, frames := ← int m "frames" 0,
           duration := ← float m "duration" 0.0, integrator := ← str m "integrator" "",
           controller := ← str m "controller" "", recording := ← str m "recording" "",
           abnormal := ← bool m "abnormal" false, error := ← str m "error" "",
           metrics := some (← namedFloats m "metrics") }

/-- Adds entries that are not runs: a file, a directory with unreadable
metadata, and an empty directory. -/
def addJunk (fs : Files) : Files :=
  let junk : Except String Files := do
    let fs ← fs.writeFile (joinPath [scratchDir, "notes.txt"]) "not a run\n"
    let fs ← fs.makeDirs (joinPath [scratchDir, "broken"])
    let fs ← fs.writeFile (joinPath [scratchDir, "broken", "metadata.json"]) "\x7bnot json"
    fs.makeDirs (joinPath [scratchDir, "empty"])
  junk.toOption.getD fs

/-- The `storage` request. -/
def storageAnswer (req : Json) : Reply Json := do
  if let some (.str text) := req.get? "csv" then
    return match seriesOfText text with
      | .ok s => .obj [("series", seriesJson s)]
      | .error (.failed e) => failure "csv" e
      | .error (.fault f) => faultAnswer f
  let md ← metadataOf (object req "meta")
  let tracks ← (list req "tracks").mapM fun t => do
    return ({ body := ← str t "body" "", frames := (← (list t "frames").mapM snapshotOf).toArray } : Track)
  let disk : Disk := { files := (({} : Files).makeDirs scratchDir).toOption.getD {} }
  let (disk, id) ← match disk.save scratchDir md tracks with
    | .ok r => pure r
    | .error e => throw (failure "save" (maskId (runId disk.stored) e))
  let mut fs := disk.files
  for b in list req "drop_tracks" do
    if let .str name := b then
      fs := (fs.remove (joinPath [scratchDir, id, trackFile name])).toOption.getD fs
  if ← bool req "junk" false then fs := addJunk fs
  let csv := tracks.filterMap fun t =>
    (fs.readFile (joinPath [scratchDir, id, trackFile t.body])).toOption.map fun text => (t.body, Json.str text)
  let loaded ← match fs.loadRun scratchDir id with
    | .ok m => pure m
    | .error e => throw (failure "load" (maskId id e))
  let series := (loaded.bodies.getD []).map fun b =>
    (b, match fs.loadTrack scratchDir id b with
      | .ok s => seriesJson s
      | .error e => .obj [("error", .str (maskId id e.message))])
  let listed := ((fs.listRuns scratchDir).toOption.map List.length).getD 0
  let exported := match fs.exportRun scratchDir id with
    | .ok text => .str ((maskId id text).replace loaded.timestamp.rfc3339 "<timestamp>")
    | .error e => .obj [("error", .str (maskId id e.message))]
  return .obj [("csv", .obj csv), ("series", .obj series),
    ("bodies", .arr ((loaded.bodies.getD []).map .str)),
    ("metrics", .obj ((sortedMetrics (loaded.metrics.getD [])).map fun (k, x) => (k, .num x))),
    ("world", .str loaded.world), ("frames", .int loaded.frames), ("listed", .int listed),
    ("export", exported)]

end Multibody.Api
