import Multibody.Api.Settings
import Multibody.App.ConfigText

/-!
# Session settings as a request

The `app_config` request starts from the default settings or a preset, reads
YAML over them, and shows the result as JSON, its problems, and its YAML.
-/

namespace Multibody.Api

open App

/-- Model parameters as JSON. -/
def modelParamsJson (p : ModelParams) : Json :=
  .obj [("mass", .num p.mass), ("length", .num p.length), ("damping", .num p.damping),
    ("theta", .num p.theta), ("theta2", .num p.theta2), ("links", .int p.links), ("count", .int p.count),
    ("height", .num p.height), ("thrust", .num p.thrust), ("hover", .bool p.hover)]

/-- Session settings as JSON. -/
def appConfigJson (c : AppConfig) : Json :=
  let cp := c.controllerParams
  .obj [("world", .str c.world), ("model", modelParamsJson c.model), ("integrator", .str c.integrator),
    ("controller", .str c.controller),
    ("controller_params", .obj [("kp", .num cp.kp), ("ki", .num cp.ki), ("kd", .num cp.kd),
      ("target", .num cp.target), ("duration", .num cp.duration)]),
    ("contacts", .bool c.contacts), ("sim", configJson c.sim),
    ("logging", .obj [("level", .str c.logging.level), ("format", .str c.logging.format)]),
    ("metrics", .obj [("addr", .str c.metricsAddr)]),
    ("tracing", .obj [("enabled", .bool c.tracing.enabled), ("output", .str c.tracing.output),
      ("service_name", .str c.tracing.serviceName), ("sample_ratio", .num c.tracing.sampleRatio)]),
    ("data_dir", .str c.dataDir)]

/-- Session settings with their problems and their YAML. -/
def appConfigReport (c : AppConfig) : List (String × Json) :=
  [("config", appConfigJson c), ("validate", failureJson c.validate),
   ("yaml", .str (Yaml.render 4 c.toPiece))]

/-- The `app_config` request. -/
def appConfigAnswer (req : Json) : Reply Json := do
  let base ← match req.get? "preset" with
    | some p =>
      match p.items with
      | [.str w, .str n] => pure (preset? w n)
      | _ => throw (badInput "field preset: not a [world, name] pair")
    | none => pure (some {})
  let some cfg := base | return .obj [("config", .null)]
  let mut cfg := cfg
  if let some text ← str? req "yaml" then
    match Yaml.decodeText AppConfig.decoder text cfg with
    | .ok c => cfg := c
    | .error e => throw (failure "yaml" e)
  return .obj (appConfigReport cfg)

end Multibody.Api
