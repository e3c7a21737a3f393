import Multibody.App.Config
import Multibody.Sim.Archive

/-!
# Application settings as YAML

Session settings are read from a YAML mapping over the current ones, section
by section, and written back as one mapping with every field in a fixed
order.
-/

namespace Multibody.App

open Yaml

/-- Reads model parameters over the current ones. -/
def modelDecoder : Decoder ModelParams :=
  decodeRecord "models.Params" fun name =>
    match name with
    | "mass" => some fun n p => do return { p with mass := ← decodeFloat n p.mass }
    | "length" => some fun n p => do return { p with length := ← decodeFloat n p.length }
    | "damping" => some fun n p => do return { p with damping := ← decodeFloat n p.damping }
    | "theta" => some fun n p => do return { p with theta := ← decodeFloat n p.theta }
    | "theta2" => some fun n p => do return { p with theta2 := ← decodeFloat n p.theta2 }
    | "links" => some fun n p => do return { p with links := ← decodeInt n p.links }
    | "count" => some fun n p => do return { p with count := ← decodeInt n p.count }
    | "height" => some fun n p => do return { p with height := ← decodeFloat n p.height }
    | "thrust" => some fun n p => do return { p with thrust := ← decodeFloat n p.thrust }
    | "hover" => some fun n p => do return { p with hover := ← decodeBool n p.hover }
    | _ => none

/-- Reads controller settings over the current ones. -/
def controllerDecoder : Decoder ControllerSettings :=
  decodeRecord "config.ControllerConfig" fun name =>
    match name with
    | "kp" => some fun n c => do return { c with kp := ← decodeFloat n c.kp }
    | "ki" => some fun n c => do return { c with ki := ← decodeFloat n c.ki }
    | "kd" => some fun n c => do return { c with kd := ← decodeFloat n c.kd }
    | "target" => some fun n c => do return { c with target := ← decodeFloat n c.target }
    | "duration" => some fun n c => do return { c with duration := ← decodeFloat n c.duration }
    | _ => none

/-- Reads log settings over the current ones. -/
def logDecoder : Decoder LogSettings :=
  decodeRecord "logging.Config" fun name =>
    match name with
    | "level" => some fun n l => do return { l with level := ← decodeString n l.level }
    | "format" => some fun n l => do return { l with format := ← decodeString n l.format }
    | _ => none

/-- Reads the metrics address over the current one. -/
def metricsDecoder : Decoder String :=
  decodeRecord "config.MetricsConfig" fun name =>
    match name with
    | "addr" => some decodeString
    | _ => none

/-- Reads tracing settings over the current ones. -/
def tracingDecoder : Decoder TracingSettings :=
  decodeRecord "observability.TracingConfig" fun name =>
    match name with
    | "enabled" => some fun n t => do return { t with enabled := ← decodeBool n t.enabled }
    | "output" => some fun n t => do return { t with output := ← decodeString n t.output }
    | "service_name" => some fun n t => do return { t with serviceName := ← decodeString n t.serviceName }
    | "sample_ratio" => some fun n t => do return { t with sampleRatio := ← decodeFloat n t.sampleRatio }
    | _ => none

/-- Reads session settings over the current ones. -/
def AppConfig.decoder : Decoder AppConfig :=
  decodeRecord "config.Config" fun name =>
    match name with
    | "world" => some fun n c => do return { c with world := ← decodeString n c.world }
    | "model" => some fun n c => do return { c with model := ← modelDecoder n c.model }
    | "integrator" => some fun n c => do return { c with integrator := ← decodeString n c.integrator }
    | "controller" => some fun n c => do return { c with controller := ← decodeString n c.controller }
    | "controller_params" => some fun n c => do
      return { c with controllerParams := ← controllerDecoder n c.controllerParams }
    | "contacts" => some fun n c => do return { c with contacts := ← decodeBool n c.contacts }
    | "sim" => some fun n c => do return { c with sim := ← Sim.Config.decoder n c.sim }
    | "logging" => some fun n c => do return { c with logging := ← logDecoder n c.logging }
    | "metrics" => some fun n c => do return { c with metricsAddr := ← metricsDecoder n c.metricsAddr }
    | "tracing" => some fun n c => do return { c with tracing := ← tracingDecoder n c.tracing }
    | "data_dir" => some fun n c => do return { c with dataDir := ← decodeString n c.dataDir }
    | _ => none

/-- Model parameters as a YAML document. -/
def modelPiece (p : ModelParams) : Piece :=
  Piece.record [("mass", .ofFloat p.mass), ("length", .ofFloat p.length), ("damping", .ofFloat p.damping),
    ("theta", .ofFloat p.theta), ("theta2", .ofFloat p.theta2), ("links", .ofInt p.links),
    ("count", .ofInt p.count), ("height", .ofFloat p.height), ("thrust", .ofFloat p.thrust),
    ("hover", .ofBool p.hover)]

/-- Session settings as a YAML document. -/
def AppConfig.toPiece (c : AppConfig) : Piece :=
  let cp := c.controllerParams
  Piece.record [("world", .ofString c.world), ("model", modelPiece c.model),
    ("integrator", .ofString c.integrator), ("controller", .ofString c.controller),
    ("controller_params", Piece.record [("kp", .ofFloat cp.kp), ("ki", .ofFloat cp.ki),
      ("kd", .ofFloat cp.kd), ("target", .ofFloat cp.target), ("duration", .ofFloat cp.duration)]),
    ("contacts", .ofBool c.contacts), ("sim", c.sim.toPiece),
    ("logging", Piece.record [("level", .ofString c.logging.level), ("format", .ofString c.logging.format)]),
    ("metrics", Piece.record [("addr", .ofString c.metricsAddr)]),
    ("tracing", Piece.record [("enabled", .ofBool c.tracing.enabled), ("output", .ofString c.tracing.output),
      ("service_name", .ofString c.tracing.serviceName), ("sample_ratio", .ofFloat c.tracing.sampleRatio)]),
    ("data_dir", .ofString c.dataDir)]

end Multibody.App
