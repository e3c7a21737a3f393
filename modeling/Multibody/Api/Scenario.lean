import Multibody.Api.AppConfig
import Multibody.App.Scenario

/-!
# Scenarios as a request

The `scenario` request reads a scenario and resolves each step's settings.
-/

namespace Multibody.Api

open App

/-- A step with its settings or the reason it has none. -/
def stepJson (st : Step) : Json :=
  let outcome := match st.resolve with
    | .ok c => ("config", appConfigJson c)
    | .error e => ("error", Json.str e)
  .obj [("name", .str st.name), ("world", .str st.world), ("preset", .str st.preset), outcome]

/-- The `scenario` request. -/
def scenarioAnswer (req : Json) : Reply Json := do
  match Scenario.parse (← str req "yaml" "") with
  | .ok sc =>
    return .obj [("name", .str sc.name), ("description", .str sc.description),
      ("steps", .arr (sc.steps.map stepJson))]
  | .error e => throw (failure "scenario" e)

end Multibody.Api
