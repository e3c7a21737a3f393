import Multibody.Sim.Config
import Multibody.Yaml.Encode

/-!
# Archives of settings

An archive stores settings by key, as YAML keeps them: numbers, booleans,
strings, and nested lists and mappings.  Reading a key asks for a kind and
falls back to a default when the key is missing or holds another kind; a
double read as an integer is truncated, an integer read as a double
converted.  An archive is written as a YAML mapping with its keys in natural
order.

The simulator settings store themselves under camel-case keys, modes and the
flush period as text, and restore from an archive key by key, keeping the
current value of a missing key; the result must be valid settings.
-/

namespace Multibody.Sim

open Yaml

/-- Settings stored by key. -/
structure Archive where
  entries : List (String × Value) := []
  deriving Inhabited

namespace Archive

/-- The value under a key. -/
def get? (a : Archive) (key : String) : Option Value := a.entries.lookup key

/-- Whether a key is present. -/
def has (a : Archive) (key : String) : Bool := (a.get? key).isSome

/-- Stores a value under a key. -/
def write (a : Archive) (key : String) (v : Value) : Archive := ⟨setEntry a.entries key v⟩

/-- A double, or `d`; an integer is converted. -/
def float (a : Archive) (key : String) (d : Float) : Float :=
  match a.get? key with
  | some (.float x) => x
  | some (.int i) => Float.ofInt i
  | _ => d

/-- An integer, or `d`; a double is truncated. -/
def int (a : Archive) (key : String) (d : Int) : Int :=
  match a.get? key with
  | some (.int i) => i
  | some (.float x) => Decimal.truncInt x
  | _ => d

/-- A boolean, or `d`. -/
def bool (a : Archive) (key : String) (d : Bool) : Bool :=
  match a.get? key with
  | some (.bool b) => b
  | _ => d

/-- A string, or `d`. -/
def string (a : Archive) (key : String) (d : String) : String :=
  match a.get? key with
  | some (.str s) => s
  | _ => d

/-- A setting stored by name: the text under `key` read by `parse`, or `d`
when the key holds no text. -/
def named {α : Type} (a : Archive) (key : String) (parse : String → Except String α) (d : α) :
    Except String α :=
  let s := a.string key ""
  if s != "" then parse s else pure d

/-- The archive as a YAML document. -/
def toPiece (a : Archive) : Piece := (Value.map (a.entries.map fun (k, v) => (.str k, v))).toPiece

/-- The archive's YAML text. -/
def marshal (a : Archive) : String := render 4 a.toPiece

/-- An archive read from YAML text. -/
def ofYaml (text : String) : Except String Archive :=
  match decodeText (decodeStringMap "item.Archive") text [] with
  | .ok es => .ok ⟨es⟩
  | .error e => .error ("parse archive: " ++ e)

end Archive

namespace Config

/-- Stores the settings in an archive. -/
def store (c : Config) (a : Archive) : Archive :=
  [("timeStep", Value.float c.timeStep), ("recording", .str c.recording.name),
   ("tailFrames", .int c.tailFrames), ("timeRangeMode", .str c.timeRange.name),
   ("timeLength", .float c.timeLength), ("selfCollision", .bool c.selfCollision),
   ("deviceStateOutput", .bool c.deviceStateOutput),
   ("allLinkPositionOutput", .bool c.allLinkPositionOutput), ("realtimeSync", .bool c.realtimeSync),
   ("flushPeriod", .str (Text.durationText c.flushPeriod)),
   ("controllerOptions", .str c.controllerOptions)].foldl (fun a (k, v) => a.write k v) a

/-- The settings restored from an archive: stored keys replace the current
values, the modes and the flush period read from their names, and the result
must be valid. -/
def restore (c : Config) (a : Archive) : Except Failure Config := do
  let recording ← (a.named "recording" RecordingMode.parse c.recording).mapError .note
  let timeRange ← (a.named "timeRangeMode" TimeRangeMode.parse c.timeRange).mapError .note
  let flushPeriod ← (a.named "flushPeriod" Text.parseDuration c.flushPeriod).mapError
    fun e => .note ("flushPeriod: " ++ e)
  let next := { c with
    timeStep := a.float "timeStep" c.timeStep, recording, tailFrames := a.int "tailFrames" c.tailFrames,
    timeRange, timeLength := a.float "timeLength" c.timeLength,
    selfCollision := a.bool "selfCollision" c.selfCollision,
    deviceStateOutput := a.bool "deviceStateOutput" c.deviceStateOutput,
    allLinkPositionOutput := a.bool "allLinkPositionOutput" c.allLinkPositionOutput,
    realtimeSync := a.bool "realtimeSync" c.realtimeSync, flushPeriod,
    controllerOptions := a.string "controllerOptions" c.controllerOptions }
  match next.validate with
  | some f => throw f
  | none => pure next

/-- Reads settings from a YAML mapping over the current ones. -/
def decoder : Decoder Config :=
  decodeRecord "sim.Config" fun name =>
    match name with
    | "time_step" => some fun n c => do return { c with timeStep := ← decodeFloat n c.timeStep }
    | "recording" => some fun n c => do
      return { c with recording := ← decodeParsed RecordingMode.parse n c.recording }
    | "tail_frames" => some fun n c => do return { c with tailFrames := ← decodeInt n c.tailFrames }
    | "time_range" => some fun n c => do
      return { c with timeRange := ← decodeParsed TimeRangeMode.parse n c.timeRange }
    | "time_length" => some fun n c => do return { c with timeLength := ← decodeFloat n c.timeLength }
    | "self_collision" => some fun n c => do
      return { c with selfCollision := ← decodeBool n c.selfCollision }
    | "device_state_output" => some fun n c => do
      return { c with deviceStateOutput := ← decodeBool n c.deviceStateOutput }
    | "all_link_position_output" => some fun n c => do
      return { c with allLinkPositionOutput := ← decodeBool n c.allLinkPositionOutput }
    | "realtime_sync" => some fun n c => do return { c with realtimeSync := ← decodeBool n c.realtimeSync }
    | "flush_period" => some fun n c => do return { c with flushPeriod := ← decodeDuration n c.flushPeriod }
    | "controller_options" => some fun n c => do
      return { c with controllerOptions := ← decodeString n c.controllerOptions }
    | _ => none

/-- The settings as a YAML document. -/
def toPiece (c : Config) : Piece :=
  Piece.record [("time_step", .ofFloat c.timeStep), ("recording", .ofString c.recording.name),
    ("tail_frames", .ofInt c.tailFrames), ("time_range", .ofString c.timeRange.name),
    ("time_length", .ofFloat c.timeLength), ("self_collision", .ofBool c.selfCollision),
    ("device_state_output", .ofBool c.deviceStateOutput),
    ("all_link_position_output", .ofBool c.allLinkPositionOutput),
    ("realtime_sync", .ofBool c.realtimeSync),
    ("flush_period", .ofString (Text.durationText c.flushPeriod)),
    ("controller_options", .ofString c.controllerOptions)]

end Config

end Multibody.Sim
