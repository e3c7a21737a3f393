import Multibody.Body.Snapshot
import Multibody.Decimal.Read
import Multibody.Fault
import Multibody.Store.Csv
import Multibody.Store.Files
import Multibody.Store.Metadata
import Multibody.Text.Uuid

/-!
# Stored runs

A data directory holds one directory per run: `metadata.json` and a track
`body_NAME.csv` per body, with a header `frame,time,x,y,z,q0…,dq0…,u0…` and
a row per frame, six decimals each.  Storing gives a fresh id; listing reads
readable metadata newest first; loading skips bad rows.  The joint count is
`(fields - 5) / 3` of the header, truncated toward zero.
-/

namespace Multibody.Store

/-- A body's recorded frames. -/
structure Track where
  body : String
  frames : Array Snapshot

/-- The files of a machine and how many runs it has stored, which drives the
ids and instants of new runs. -/
structure Disk where
  files : Files := {}
  stored : Nat := 0
  deriving Inhabited

/-- The id of the `n`-th stored run. -/
def runId (n : Nat) : String := Text.uuidOf 1 n

/-- When the `n`-th run is stored: a millisecond apart from one another. -/
def storedAt (n : Nat) : Instant :=
  { unixSeconds := 1767225600 + (n + 1) / 1000, nanos := (n + 1) % 1000 * 1000000 }

/-- The file name of a body's track. -/
def trackFile (body : String) : String := "body_" ++ body ++ ".csv"

/-- Six decimals, as tracks store doubles. -/
def trackNumber (x : Float) : String := Decimal.fixed 6 x

/-- The text of a track. -/
def trackText (frames : Array Snapshot) : String :=
  let joints := (frames[0]?.map (·.q.size)).getD 0
  let names (p : String) := (List.range joints).map fun i => p ++ toString i
  let header := ["frame", "time", "x", "y", "z"] ++ names "q" ++ names "dq" ++ names "u"
  let padded (vals : Array Float) := (List.range joints).map fun i => trackNumber (vals.getD i 0.0)
  let row (fr : Snapshot) : List String :=
    let p := fr.root.position
    [toString fr.frame, trackNumber fr.time, trackNumber p.x, trackNumber p.y, trackNumber p.z] ++
      padded fr.q ++ padded fr.dq ++ padded fr.u
  String.join (recordLine header :: frames.toList.map fun fr => recordLine (row fr))

/-- Stores a run under a fresh id, which it returns with the disk after. -/
def Disk.save (d : Disk) (base : String) (md : RunMetadata) (tracks : List Track) :
    Except String (Disk × String) := do
  let id := runId d.stored
  let md := { md with id, timestamp := storedAt d.stored, bodies := some (tracks.map Track.body) }
  let d := { d with stored := d.stored + 1 }
  let runDir := joinPath [base, id]
  let files ← d.files.makeDirs runDir
  let metaPath := joinPath [runDir, "metadata.json"]
  let files ← files.writeFile metaPath ""
  let text ← match encodeIndented (.obj md.members) with
    | .ok t => pure t
    | .error e => throw e
  let files ← files.writeFile metaPath text
  let files ← tracks.foldlM (fun files tr =>
    match files.writeFile (joinPath [runDir, trackFile tr.body]) (trackText tr.frames) with
    | .ok fs => .ok fs
    | .error e => .error ("track " ++ tr.body ++ ": " ++ e)) files
  return ({ d with files }, id)

/-- A stored run's metadata. -/
def Files.loadRun (fs : Files) (base runId : String) : Except String RunMetadata := do
  let text ← fs.readFile (joinPath [base, runId, "metadata.json"])
  RunMetadata.ofJsonText text

/-- Inserts into a list sorted newest first, after the runs as new. -/
def insertByTime (m : RunMetadata) : List RunMetadata → List RunMetadata
  | [] => [m]
  | x :: xs => if m.timestamp.after x.timestamp then m :: x :: xs else x :: insertByTime m xs

/-- Every readable run, newest first; runs stored at the same instant keep
the order of their directory names. -/
def Files.listRuns (fs : Files) (base : String) : Except String (List RunMetadata) :=
  match fs.readDir base with
  | .error e => if e.endsWith "no such file or directory" then .ok [] else .error e
  | .ok entries =>
    let runs := entries.filterMap fun (name, e) =>
      if e == .dir then (fs.loadRun base name).toOption else none
    .ok (runs.foldl (fun acc m => insertByTime m acc) [])

/-- How loading a track can fail: an error, or a fault of indexing. -/
inductive TrackError where
  | failed (message : String)
  | fault (f : Fault)

/-- The message of a track failure. -/
def TrackError.message : TrackError → String
  | .failed m => m
  | .fault f => f.message

/-- Every field of a row as a number, if each is one. -/
def rowNumbers (record : List String) : Option (Array Float) :=
  record.toArray.mapM fun f => (Decimal.readFloat f).toOption

/-- Appends one row to a series, faulting where the header's joint count
does not fit the row. -/
def addRow (joints : Int) (s : Series) (vals : Array Float) : Except Fault Series := do
  let frame ← Fault.at vals 0
  let time ← Fault.at vals 1
  let x ← Fault.at vals 2
  let y ← Fault.at vals 3
  let z ← Fault.at vals 4
  let slice (lo : Nat) (hi : Int) : Except Fault (Array Float) :=
    if hi < lo then .error (.sliceBounds lo hi.toNat) else .ok (vals.extract lo hi.toNat)
  let q ← slice 5 (5 + joints)
  let dq ← slice (5 + joints).toNat (5 + 2 * joints)
  let u ← slice (5 + 2 * joints).toNat (5 + 3 * joints)
  return { frames := s.frames.push (Decimal.truncInt frame), times := s.times.push time,
           root := s.root.push ⟨x, y, z⟩, q := s.q.push q, dq := s.dq.push dq, u := s.u.push u }

/-- The series of a track's text. -/
def seriesOfText (text : String) : Except TrackError Series := do
  let records ← match readRecords text with
    | .ok rs => pure rs
    | .error e => throw (.failed e.message)
  match records with
  | [] | [_] => return {}
  | header :: rows =>
    let joints : Int := Int.tdiv ((header.length : Int) - 5) 3
    rows.foldlM (fun s record =>
      if (record.length : Int) < 5 + 3 * joints then .ok s
      else match rowNumbers record with
        | none => .ok s
        | some vals => (addRow joints s vals).mapError .fault) {}

/-- A stored body's track as a series. -/
def Files.loadTrack (fs : Files) (base runId body : String) : Except TrackError Series := do
  let text ← (fs.readFile (joinPath [base, runId, trackFile body])).mapError .failed
  seriesOfText text

/-- A run with its tracks as indented JSON. -/
def Files.exportRun (fs : Files) (base runId : String) : Except TrackError String := do
  let md ← (fs.loadRun base runId).mapError .failed
  let tracks ← (md.bodies.getD []).foldlM (fun acc name => do
    let s ← fs.loadTrack base runId name
    return setKey acc name s) []
  let tracks := tracks.mergeSort fun a b => decide (a.1 ≤ b.1)
  let j := Json.obj (md.members ++ [("tracks", .obj (tracks.map fun (k, s) => (k, s.toJson)))])
  (encodeIndented j).mapError .failed

end Multibody.Store
