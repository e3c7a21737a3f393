import Multibody.Json.Strict
import Multibody.Json.Write
import Multibody.Geometry.Vec3
import Multibody.Store.Instant

/-!
# Run metadata and loaded tracks

A stored run's id, world, preset, times, integrator, controller, recording
mode, error, bodies and metrics, written as indented JSON in a fixed field
order.  Reading matches fields by name ignoring case and skips unknown ones;
the first value of a wrong kind is the result, and a timestamp that is not
RFC 3339 stops it.  A loaded track is a `Series` of columns.
-/

namespace Multibody.Store

open Json

/-- What a run says about itself. -/
structure RunMetadata where
  id : String := ""
  world : String := ""
  preset : String := ""
  /-- the zero instant, year 1, until set -/
  timestamp : Instant := { unixSeconds := -62135596800 }
  timeStep : Float := 0.0
  frames : Int := 0
  duration : Float := 0.0
  integrator : String := ""
  controller : String := ""
  recording : String := ""
  abnormal : Bool := false
  error : String := ""
  bodies : Option (List String) := none
  metrics : Option (List (String × Float)) := none
  deriving Inhabited

/-- A loaded track, column by column. -/
structure Series where
  frames : Array Int := #[]
  times : Array Float := #[]
  root : Array Vec3 := #[]
  q : Array (Array Float) := #[]
  dq : Array (Array Float) := #[]
  u : Array (Array Float) := #[]
  deriving Inhabited

/-- Sets a key of an association list, a later value replacing an earlier. -/
def setKey {α : Type} (entries : List (String × α)) (key : String) (v : α) : List (String × α) :=
  if entries.any (·.1 == key) then entries.map fun (k, x) => if k == key then (k, v) else (k, x)
  else entries ++ [(key, v)]

/-- Metrics with their names sorted. -/
def sortedMetrics (ms : List (String × Float)) : List (String × Float) :=
  ms.mergeSort fun a b => decide (a.1 ≤ b.1)

namespace RunMetadata

/-- The metadata members in their written order. -/
def members (m : RunMetadata) : List (String × Json) :=
  [("id", .str m.id), ("world", .str m.world)] ++
  (if m.preset == "" then [] else [("preset", .str m.preset)]) ++
  [("timestamp", .str m.timestamp.rfc3339), ("time_step", .num m.timeStep),
   ("frames", .int m.frames), ("duration", .num m.duration),
   ("integrator", .str m.integrator), ("controller", .str m.controller),
   ("recording", .str m.recording), ("abnormal", .bool m.abnormal)] ++
  (if m.error == "" then [] else [("error", .str m.error)]) ++
  [("bodies", match m.bodies with
      | some bs => .arr (bs.map .str)
      | none => .null),
   ("metrics", match m.metrics with
      | some ms => .obj ((sortedMetrics ms).map fun (k, x) => (k, .num x))
      | none => .null)]

end RunMetadata

/-- A column written as JSON; an empty column was never filled and is
`null`. -/
def columnJson {α : Type} (xs : Array α) (f : α → Json) : Json :=
  if xs.isEmpty then .null else .arr (xs.toList.map f)

/-- A series as JSON. -/
def Series.toJson (s : Series) : Json :=
  let row (r : Array Float) : Json := .arr (r.toList.map .num)
  .obj [("frames", columnJson s.frames .int), ("times", columnJson s.times .num),
    ("root", columnJson s.root fun v => .arr [.num v.x, .num v.y, .num v.z]),
    ("q", columnJson s.q row), ("dq", columnJson s.dq row), ("u", columnJson s.u row)]

/-- The name of a non-finite double in an encoding failure. -/
def nonFiniteName (x : Float) : String :=
  if x.isNaN then "NaN" else if x > 0 then "+Inf" else "-Inf"

/-- Indented JSON text with a final line break, or the failure for a value
JSON cannot hold. -/
def encodeIndented (j : Json) : Except String String :=
  match firstNonFinite j with
  | some x => .error ("json: unsupported value: " ++ nonFiniteName x)
  | none => .ok (indented Style.spelled "  " "" j ++ "\n")

/-! ## Reading metadata back -/

/-- A value of the wrong kind for a field. -/
def mismatch (value field type : String) : String :=
  "json: cannot unmarshal " ++ value ++ " into Go struct field RunMetadata." ++ field ++ " of type " ++ type

/-- Decoding state: the metadata so far and the first mismatch. -/
abbrev MetaDecode := StateT (RunMetadata × Option String) (Except String)

/-- Records a mismatch unless one is recorded already. -/
def noteMismatch (msg : String) : MetaDecode Unit :=
  modify fun (m, e) => (m, e.orElse fun _ => some msg)

/-- Changes the metadata. -/
def update (f : RunMetadata → RunMetadata) : MetaDecode Unit := modify fun (m, e) => (f m, e)

/-- A string field. -/
def stringField (name : String) (v : Written) (set : String → RunMetadata → RunMetadata) :
    MetaDecode Unit :=
  match v with
  | .str s => update (set s)
  | .null => pure ()
  | w => noteMismatch (mismatch w.kind name "string")

/-- A double field. -/
def floatField (name : String) (v : Written) (set : Float → RunMetadata → RunMetadata) :
    MetaDecode Unit :=
  match v with
  | .number t =>
    match Decimal.readFloat t with
    | .ok x => update (set x)
    | .error _ => noteMismatch (mismatch ("number " ++ t) name "float64")
  | .null => pure ()
  | w => noteMismatch (mismatch w.kind name "float64")

/-- A 64-bit integer written without fraction or exponent. -/
def intText? (t : String) : Option Int :=
  let (neg, ds) := match t.toList with
    | '-' :: r => (true, r)
    | r => (false, r)
  if ds.isEmpty || !ds.all Char.isDigit then none
  else
    let n := ds.foldl (fun (n : Nat) c => n * 10 + (c.toNat - 48)) 0
    if neg then (if n ≤ Nat.pow 2 63 then some (-(n : Int)) else none)
    else if n < Nat.pow 2 63 then some n else none

/-- Reads one member into the metadata. -/
def decodeMember (key : String) (v : Written) : MetaDecode Unit :=
  match key.toLower with
  | "id" => stringField "id" v fun s m => { m with id := s }
  | "world" => stringField "world" v fun s m => { m with world := s }
  | "preset" => stringField "preset" v fun s m => { m with preset := s }
  | "integrator" => stringField "integrator" v fun s m => { m with integrator := s }
  | "controller" => stringField "controller" v fun s m => { m with controller := s }
  | "recording" => stringField "recording" v fun s m => { m with recording := s }
  | "error" => stringField "error" v fun s m => { m with error := s }
  | "time_step" => floatField "time_step" v fun x m => { m with timeStep := x }
  | "duration" => floatField "duration" v fun x m => { m with duration := x }
  | "frames" =>
    match v with
    | .number t =>
      match intText? t with
      | some n => update fun m => { m with frames := n }
      | none => noteMismatch (mismatch ("number " ++ t) "frames" "int")
    | .null => pure ()
    | w => noteMismatch (mismatch w.kind "frames" "int")
  | "abnormal" =>
    match v with
    | .bool b => update fun m => { m with abnormal := b }
    | .null => pure ()
    | w => noteMismatch (mismatch w.kind "abnormal" "bool")
  | "timestamp" =>
    match v with
    | .null => pure ()
    | .str s =>
      match Instant.parse s with
      | .ok t => update fun m => { m with timestamp := t }
      | .error e => throw e
    | _ => throw "Time.UnmarshalJSON: input is not a JSON string"
  | "bodies" =>
    match v with
    | .null => update fun m => { m with bodies := none }
    | .arr items => do
      let mut names : List String := []
      for it in items do
        match it with
        | .str s => names := names ++ [s]
        | .null => names := names ++ [""]
        | w =>
          noteMismatch (mismatch w.kind "bodies" "string")
          names := names ++ [""]
      update fun m => { m with bodies := some names }
    | w => noteMismatch (mismatch w.kind "bodies" "[]string")
  | "metrics" =>
    match v with
    | .null => update fun m => { m with metrics := none }
    | .obj members => do
      let mut ms := ((← get).1.metrics).getD []
      for (k, x) in members do
        match x with
        | .number t =>
          match Decimal.readFloat t with
          | .ok f => ms := setKey ms k f
          | .error _ => noteMismatch (mismatch ("number " ++ t) "metrics" "float64")
        | .null => ms := setKey ms k 0.0
        | w => noteMismatch (mismatch w.kind "metrics" "float64")
      update fun m => { m with metrics := some ms }
    | w => noteMismatch (mismatch w.kind "metrics" "map[string]float64")
  | _ => pure ()

/-- Metadata read from its JSON text. -/
def RunMetadata.ofJsonText (text : String) : Except String RunMetadata := do
  let w ← readStrict text
  match w with
  | .null => return {}
  | .obj members =>
    let ((), (m, err)) ← (members.forM fun (k, v) => decodeMember k v).run ({}, none)
    match err with
    | some e => throw e
    | none => return m
  | w => throw ("json: cannot unmarshal " ++ w.kind ++ " into Go value of type storage.RunMetadata")

end Multibody.Store
