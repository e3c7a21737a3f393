import Multibody.Api.Fields
import Multibody.App.Config
import Multibody.Sim.Run

/-!
# Names the lab knows

The `registry` request lists the models, integrators and controllers, and
looks names up; the `modes` request reads and spells the named modes.
-/

namespace Multibody.Api

open Sim

/-- The `registry` request. -/
def registryAnswer (req : Json) : Reply Json := do
  let mut out : List (String × Json) :=
    [("models", Json.ofStrings Assembly.modelNames), ("integrators", Json.ofStrings Integrator.names),
     ("controllers", Json.ofStrings Control.names)]
  if let some w ← str? req "world" then
    out := out ++ [("presets", Json.opt Json.ofStrings (App.presetNames? w))]
  if let some n ← str? req "integrator" then
    out := out ++ [("integrator_error",
      if (Integrator.ofName? n).isSome then .null else .str (Integrator.unknownMessage n))]
  if let some n ← str? req "controller" then
    out := out ++ (match Control.Law.ofName? n {} with
      | some law => [("controller_name", Json.str law.name)]
      | none => [("controller_error", Json.str (Control.unknownMessage n))])
  if let some n ← str? req "model" then
    out := out ++ [("model_error",
      if Assembly.modelNames.contains n then .null else .str (Assembly.unknownModelMessage n))]
  return .obj out

/-- A mode read from its name: its number, its name, and the error; an
unknown name reads as the first mode. -/
def modeJson {α : Type} (parse : String → Except String α) (fallback : α) (code : α → Int)
    (name : α → String) (s : String) : Json :=
  let (m, err) := match parse s with
    | .ok m => (m, Json.null)
    | .error e => (fallback, .str e)
  .obj [("value", .int (code m)), ("string", Json.str (name m)), ("error", err)]

/-- The name of a simulator state number. -/
def stateName (c : Int) : String :=
  match c with
  | 0 => "idle"
  | 1 => "running"
  | 2 => "paused"
  | _ => "unknown"

/-- The event kinds by number. -/
def eventNames : List String := ["started", "paused", "resumed", "finished", "body_list_updated"]

/-- The `modes` request. -/
def modesAnswer (req : Json) : Reply Json := do
  let mut out : List (String × Json) := []
  if let some s ← str? req "recording" then
    out := out ++ [("recording",
      modeJson RecordingMode.parse .full RecordingMode.code RecordingMode.name s)]
  if let some s ← str? req "time_range" then
    out := out ++ [("time_range",
      modeJson TimeRangeMode.parse .unlimited TimeRangeMode.code TimeRangeMode.name s)]
  if let some c ← int? req "recording_int" then
    out := out ++ [("recording_string", Json.str (RecordingMode.ofCode c).name)]
  if let some c ← int? req "time_range_int" then
    out := out ++ [("time_range_string", Json.str (TimeRangeMode.ofCode c).name)]
  if let some c ← int? req "state_int" then
    out := out ++ [("state_string", Json.str (stateName c))]
  if let some c ← int? req "joint_int" then
    out := out ++ [("joint_string", Json.str (JointType.ofCode c).name)]
  if let some c ← int? req "event_int" then
    match (if c < 0 then none else eventNames[c.toNat]?) with
    | some n => out := out ++ [("event_string", Json.str n)]
    | none => throw (faultAnswer (.indexOutOfRange c eventNames.length))
  return .obj out

end Multibody.Api
