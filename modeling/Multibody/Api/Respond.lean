import Multibody.Api.Ode
import Multibody.Api.BodyOps
import Multibody.Api.ControlOps
import Multibody.Api.Simulate
import Multibody.Api.Registry
import Multibody.Api.Grid
import Multibody.Api.Tune
import Multibody.Api.SimConfig
import Multibody.Api.AppConfig
import Multibody.Api.Scenario
import Multibody.Api.Analysis
import Multibody.Api.Svg
import Multibody.Api.Items
import Multibody.Api.Storage
import Multibody.Api.Logging
import Multibody.Api.Collector
import Multibody.Api.Tracing
import Multibody.Api.Cli
import Multibody.Api.Monitor
import Multibody.Json.Read
import Multibody.Json.Write

/-!
# Answering requests

Routes a request to the handler its `op` names and turns the handler's result
into the answer; requests that are not JSON objects, or name no operation,
are answered as unreadable.
-/

namespace Multibody.Api

/-- The answer to one request. -/
def respond (req : Json) : Json :=
  let result : Reply Json :=
    match req.get? "op" with
    | some (.str "ode") => odeAnswer req
    | some (.str "body") => bodyAnswer req
    | some (.str "model") => modelAnswer req
    | some (.str "controller") => controllerAnswer req
    | some (.str "options") => optionsAnswer req
    | some (.str "simulate") => simulateAnswer req
    | some (.str "registry") => registryAnswer req
    | some (.str "modes") => modesAnswer req
    | some (.str "grid") => gridAnswer req
    | some (.str "tune") => tuneAnswer req
    | some (.str "sim_config") => simConfigAnswer req
    | some (.str "archive") => archiveAnswer req
    | some (.str "app_config") => appConfigAnswer req
    | some (.str "scenario") => scenarioAnswer req
    | some (.str "analysis") => analysisAnswer req
    | some (.str "svg") => svgAnswer req
    | some (.str "items") => itemsAnswer req
    | some (.str "storage") => storageAnswer req
    | some (.str "logging") => loggingAnswer req
    | some (.str "collector") => collectorAnswer req
    | some (.str "cli") => cliAnswer req
    | some (.str "monitor") => monitorAnswer req
    | some (.str "tracing") => tracingAnswer req
    | some (.str op) => .error (badInput ("unknown op " ++ op))
    | _ => .error (badInput "missing op")
  match result with
  | .ok j => j
  | .error e => e

/-- The answer text to one request line. -/
def respondLine (line : String) : String :=
  match Json.parse? line with
  | some req => Json.compact Json.Style.spelled (respond req)
  | none => Json.compact Json.Style.spelled (badInput "request is not JSON")

end Multibody.Api
