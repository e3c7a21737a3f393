import Multibody.Api.Settings
import Multibody.Sim.Archive

/-!
# Simulator settings and archives as requests

The `sim_config` request builds settings from the defaults, a patch and YAML
text, and shows them as JSON, as an archive's YAML and as their own YAML.
The `archive` request reads an archive from YAML or JSON members and runs
reads, writes, YAML output, and settings restored from or stored into it.
-/

namespace Multibody.Api

open Sim

/-- The `sim_config` request. -/
def simConfigAnswer (req : Json) : Reply Json := do
  let patch ← ConfigPatch.ofJson (object req "config")
  let mut cfg := patch.apply {}
  if let some text ← str? req "yaml" then
    match Yaml.decodeText Config.decoder text cfg with
    | .ok c => cfg := c
    | .error e => throw (failure "yaml" e)
  return .obj [("config", configJson cfg), ("validate", failureJson cfg.validate),
    ("archive_yaml", .str (cfg.store {}).marshal), ("yaml", .str (Yaml.render 4 cfg.toPiece))]

mutual

/-- A stored value from JSON: integers stay integers, other numbers are
doubles. -/
def valueOfJson : Json → Yaml.Value
  | .null => .null
  | .bool b => .bool b
  | .int i => .int i
  | .num x => .float x
  | .str s => .str s
  | .arr items => .seq (valuesOfJson items)
  | .obj fields => .map (membersOfJson fields)

/-- Stored values of JSON items. -/
def valuesOfJson : List Json → List Yaml.Value
  | [] => []
  | j :: js => valueOfJson j :: valuesOfJson js

/-- Stored pairs of JSON members. -/
def membersOfJson : List (String × Json) → List (Yaml.Value × Yaml.Value)
  | [] => []
  | (k, j) :: rest => (.str k, valueOfJson j) :: membersOfJson rest

end

/-- The text of a mapping key in JSON. -/
def keyJsonText : Yaml.Value → String
  | .str s => s
  | .int i => toString i
  | .uint n => toString n
  | .bool b => if b then "true" else "false"
  | .float x => Decimal.general x
  | _ => ""

mutual

/-- A stored value as JSON. -/
def valueJson : Yaml.Value → Json
  | .null => .null
  | .bool b => .bool b
  | .int i => .int i
  | .uint n => .int n
  | .float x => .num x
  | .str s => .str s
  | .seq items => .arr (valuesJson items)
  | .map pairs => .obj (pairsJson pairs)

/-- Stored items as JSON. -/
def valuesJson : List Yaml.Value → List Json
  | [] => []
  | v :: vs => valueJson v :: valuesJson vs

/-- Stored pairs as JSON members. -/
def pairsJson : List (Yaml.Value × Yaml.Value) → List (String × Json)
  | [] => []
  | (k, v) :: rest => (keyJsonText k, valueJson v) :: pairsJson rest

end

/-- A read of a whole entry: doubles and integers tagged with their kind,
other values as they are. -/
def entryJson : Option Yaml.Value → Json
  | some (.float x) => .obj [("float", .num x)]
  | some (.int i) => .obj [("int", .int i)]
  | some v => valueJson v
  | none => .null

/-- Settings restored from an archive over patched defaults, with the
failure when the archive does not restore. -/
def restoredJson (patch : ConfigPatch) (a : Archive) : Json :=
  let base := patch.apply {}
  match base.restore a with
  | .ok c => .obj [("config", configJson c)]
  | .error f => .obj [("config", configJson base), ("error", .str f.message)]

/-- One archive operation: the archive after it and its result. -/
def archiveStep (a : Archive) (op : Json) : Reply (Archive × Json) := do
  let key ← str op "key" ""
  match ← str op "do" "" with
  | "float" => return (a, .num (a.float key (← float op "def" 0.0)))
  | "int" => return (a, .int (a.int key (← int op "def" 0)))
  | "bool" => return (a, .bool (a.bool key (← bool op "def" false)))
  | "string" => return (a, .str (a.string key (← str op "def" "")))
  | "has" => return (a, .bool (a.has key))
  | "get" => return (a, entryJson (a.get? key))
  | "write" => return (a.write key (valueOfJson ((op.get? "value").getD .null)), .null)
  | "marshal" => return (a, .str a.marshal)
  | "restore_config" => return (a, restoredJson (← ConfigPatch.ofJson (object op "base")) a)
  | "store_config" => return ((((← ConfigPatch.ofJson (object op "config")).apply {}).store a), .null)
  | other => throw (badInput ("unknown archive op " ++ other))

/-- The `archive` request. -/
def archiveAnswer (req : Json) : Reply Json := do
  let mut a : Archive := {}
  if let some text ← str? req "yaml" then
    match Archive.ofYaml text with
    | .ok x => a := x
    | .error e => throw (failure "archive" e)
  else
    for (k, v) in (object req "data").fields do
      a := a.write k (valueOfJson v)
  let mut results : Array Json := #[]
  for op in list req "ops" do
    let (a', r) ← archiveStep a op
    a := a'
    results := results.push r
  return .obj [("results", .arr results.toList)]

end Multibody.Api
