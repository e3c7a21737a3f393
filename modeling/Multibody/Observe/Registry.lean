import Multibody.Decimal.Format
import Multibody.Text.Quoted

/-!
# Metric registries

A registry holds named gauges, counters, histograms, summaries and labelled
families.  Registering a taken name yields the instrument there when help
and labels agree, and is refused otherwise.  Gathering lists them by name,
and the text exposition writes help and type lines, shortest numbers and
cumulative buckets.
-/

namespace Multibody.Observe

/-- What an instrument measures. -/
inductive Kind where
  | gauge
  | counter
  | histogram
  | summary
  | counterFamily
  | gaugeFamily
  deriving BEq, Inhabited

/-- The type name in upper case, as gathered metrics show it. -/
def Kind.upper : Kind → String
  | .gauge | .gaugeFamily => "GAUGE"
  | .counter | .counterFamily => "COUNTER"
  | .histogram => "HISTOGRAM"
  | .summary => "SUMMARY"

/-- The default bucket bounds of a histogram. -/
def defaultBuckets : List Float := [0.005, 0.01, 0.025, 0.05, 0.1, 0.25, 0.5, 1, 2.5, 5, 10]

/-- A registered instrument and its current readings. -/
structure Instrument where
  name : String
  help : String
  kind : Kind
  labelNames : List String := []
  value : Float := 0.0
  count : Nat := 0
  sum : Float := 0.0
  bounds : List Float := defaultBuckets
  /-- observations per bucket, not cumulative, one entry per bound -/
  hits : List Nat := []
  /-- members of a family by their label values -/
  members : List (List String × Float) := []
  deriving Inhabited

/-- Whether a text is a metric name. -/
def validName (s : String) : Bool :=
  match s.toList with
  | [] => false
  | c :: rest =>
    let ok (c : Char) := (c.isAlpha && c.toNat < 128) || c == '_' || c == ':'
    ok c && rest.all fun c => ok c || c.isDigit

namespace Instrument

/-- The descriptor text of an instrument. -/
def descriptor (i : Instrument) : String :=
  "Desc\x7bfqName: " ++ Text.quoted i.name ++ ", help: " ++ Text.quoted i.help ++
    ", constLabels: \x7b\x7d, variableLabels: \x7b" ++ ",".intercalate i.labelNames ++ "\x7d\x7d"

/-- Sets a gauge. -/
def set (i : Instrument) (x : Float) : Instrument :=
  if i.kind == .gauge then { i with value := x } else i

/-- Adds to a counter or gauge. -/
def add (i : Instrument) (x : Float) : Instrument :=
  if i.kind == .gauge || i.kind == .counter then { i with value := i.value + x } else i

/-- The bucket an observation falls in: the first bound at or above it. -/
def bucketOf (bounds : List Float) (x : Float) : Nat :=
  (bounds.findIdx? (x ≤ ·)).getD bounds.length

/-- Records an observation in a histogram or summary. -/
def observe (i : Instrument) (x : Float) : Instrument :=
  match i.kind with
  | .histogram =>
    let hits := if i.hits.length == i.bounds.length then i.hits else i.bounds.map fun _ => 0
    let b := bucketOf i.bounds x
    { i with count := i.count + 1, sum := i.sum + x, hits := hits.modify b (· + 1) }
  | .summary => { i with count := i.count + 1, sum := i.sum + x }
  | _ => i

/-- Adds one to the family member with the given label values. -/
def incMember (i : Instrument) (labels : List String) : Instrument :=
  if i.kind != .counterFamily && i.kind != .gaugeFamily then i
  else match i.members.lookup labels with
    | some v => { i with members := i.members.map fun (k, x) => if k == labels then (k, v + 1) else (k, x) }
    | none => { i with members := i.members ++ [(labels, 1)] }

end Instrument

/-- The instruments of a registry, in registration order. -/
structure Registry where
  instruments : Array Instrument := #[]
  deriving Inhabited

/-- How a registration went: a new instrument, or the one already there. -/
inductive Registration where
  | added (index : Nat)
  | existing (index : Nat)

namespace Registry

/-- Registers an instrument. -/
def register (r : Registry) (i : Instrument) : Except String (Registry × Registration) :=
  if !validName i.name then
    .error ("descriptor " ++ i.descriptor ++ " is invalid: " ++ Text.quoted i.name ++
      " is not a valid metric name")
  else match r.instruments.findIdx? (·.name == i.name) with
    | some k =>
      let old := r.instruments[k]!
      if old.help != i.help || (old.labelNames.mergeSort (· ≤ ·)) != (i.labelNames.mergeSort (· ≤ ·)) then
        .error ("a previously registered descriptor with the same fully-qualified name as " ++
          i.descriptor ++ " has different label names or a different help string")
      else .ok (r, .existing k)
    | none => .ok ({ instruments := r.instruments.push i }, .added r.instruments.size)

/-- Changes one instrument. -/
def modify (r : Registry) (k : Nat) (f : Instrument → Instrument) : Registry :=
  { instruments := r.instruments.modify k f }

end Registry

/-! ## Gathering -/

/-- One sample of a gathered instrument. -/
structure Sample where
  labels : List (String × String) := []
  value : Option Float := none
  count : Option Nat := none
  sum : Option Float := none
  /-- upper bounds with cumulative counts -/
  buckets : Option (List (Float × Nat)) := none

/-- A gathered instrument. -/
structure Family where
  name : String
  help : String
  kind : Kind
  samples : List Sample

/-- Cumulative counts of buckets. -/
def cumulative (hits : List Nat) : List Nat :=
  (hits.foldl (fun (acc : List Nat × Nat) h => (acc.1 ++ [acc.2 + h], acc.2 + h)) ([], 0)).1

/-- Label values in lexicographic order. -/
def labelsLE : List String → List String → Bool
  | [], _ => true
  | _ :: _, [] => false
  | a :: as, b :: bs => if a == b then labelsLE as bs else decide (a < b)

/-- The samples of an instrument. -/
def Instrument.samples (i : Instrument) : List Sample :=
  match i.kind with
  | .gauge | .counter => [{ value := some i.value }]
  | .histogram =>
    let hits := if i.hits.length == i.bounds.length then i.hits else i.bounds.map fun _ => 0
    [{ count := some i.count, sum := some i.sum, buckets := some (i.bounds.zip (cumulative hits)) }]
  | .summary => [{ count := some i.count, sum := some i.sum }]
  | .counterFamily | .gaugeFamily =>
    (i.members.mergeSort fun a b => labelsLE a.1 b.1).map fun (vals, v) =>
      { labels := i.labelNames.zip vals, value := some v }

/-- Every instrument with samples, sorted by name. -/
def Registry.gather (r : Registry) : List Family :=
  let fams := r.instruments.toList.filterMap fun i =>
    let s := i.samples
    if s.isEmpty then none else some { name := i.name, help := i.help, kind := i.kind, samples := s }
  fams.mergeSort fun a b => decide (a.name ≤ b.name)

/-- A number as the exposition writes it. -/
def expositionNumber (x : Float) : String :=
  if x == 1.0 then "1" else if x == 0.0 then "0" else if x == -1.0 then "-1"
  else if x.isNaN then "NaN"
  else if Decimal.isInf x then (if x > 0 then "+Inf" else "-Inf")
  else Decimal.general x

/-- Escapes a help text. -/
def escapeHelp (s : String) : String := (s.replace "\\" "\\\\").replace "\n" "\\n"

/-- Escapes a label value. -/
def escapeLabel (s : String) : String := ((s.replace "\\" "\\\\").replace "\"" "\\\"").replace "\n" "\\n"

/-- Label pairs in braces, or nothing. -/
def labelText (labels : List (String × String)) : String :=
  if labels.isEmpty then ""
  else "\x7b" ++ ",".intercalate (labels.map fun (k, v) => k ++ "=\"" ++ escapeLabel v ++ "\"") ++ "\x7d"

/-- The lines of one family. -/
def Family.lines (f : Family) : List String :=
  let typeName := match f.kind with
    | .gauge | .gaugeFamily => "gauge"
    | .counter | .counterFamily => "counter"
    | .histogram => "histogram"
    | .summary => "summary"
  ["# HELP " ++ f.name ++ " " ++ escapeHelp f.help, "# TYPE " ++ f.name ++ " " ++ typeName] ++
  f.samples.flatMap fun s =>
    match f.kind with
    | .histogram =>
      let count := s.count.getD 0
      ((s.buckets.getD []).map fun (ub, c) =>
        f.name ++ "_bucket" ++ labelText (s.labels ++ [("le", expositionNumber ub)]) ++ " " ++
          expositionNumber c.toFloat) ++
      [f.name ++ "_bucket" ++ labelText (s.labels ++ [("le", "+Inf")]) ++ " " ++ expositionNumber count.toFloat,
       f.name ++ "_sum" ++ labelText s.labels ++ " " ++ expositionNumber (s.sum.getD 0.0),
       f.name ++ "_count" ++ labelText s.labels ++ " " ++ expositionNumber count.toFloat]
    | .summary =>
      [f.name ++ "_sum" ++ labelText s.labels ++ " " ++ expositionNumber (s.sum.getD 0.0),
       f.name ++ "_count" ++ labelText s.labels ++ " " ++ expositionNumber (s.count.getD 0).toFloat]
    | _ => [f.name ++ labelText s.labels ++ " " ++ expositionNumber (s.value.getD 0.0)]

/-- The text exposition of a registry. -/
def Registry.exposition (r : Registry) : String :=
  String.join ((r.gather.flatMap Family.lines).map (· ++ "\n"))

end Multibody.Observe
