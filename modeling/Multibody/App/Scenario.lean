import Multibody.App.ConfigText

/-!
# Scenarios

A scenario is a named list of steps, each a run to make: a world, optionally
one of its presets, and settings to lay over them.  Steps without a name are
called `step1`, `step2`, … by position; a scenario needs at least one step.

A step's settings start from the defaults with the step's world, or from the
named preset of that world, and take the step's settings mapping on top; only
the keys it holds change.  The result must be valid settings.
-/

namespace Multibody.App

open Yaml

/-- One run of a scenario. -/
structure Step where
  name : String := ""
  world : String := ""
  preset : String := ""
  /-- the settings laid over the base, as written -/
  config : Option Node := none
  deriving Inhabited

/-- A named list of runs. -/
structure Scenario where
  name : String := ""
  description : String := ""
  steps : List Step := []
  deriving Inhabited

/-- Reads a step. -/
def Step.decoder : Decoder Step :=
  decodeRecord "automation.Step" fun field =>
    match field with
    | "name" => some fun n s => do return { s with name := ← decodeString n s.name }
    | "world" => some fun n s => do return { s with world := ← decodeString n s.world }
    | "preset" => some fun n s => do return { s with preset := ← decodeString n s.preset }
    | "config" => some fun n s => pure { s with config := some n }
    | _ => none

/-- Reads a scenario. -/
def Scenario.decoder : Decoder Scenario :=
  decodeRecord "automation.Scenario" fun field =>
    match field with
    | "name" => some fun n s => do return { s with name := ← decodeString n s.name }
    | "description" => some fun n s => do return { s with description := ← decodeString n s.description }
    | "steps" => some fun n s => do
      return { s with steps := ← decodeRecords "[]automation.Step" Step.decoder {} n s.steps }
    | _ => none

/-- A scenario read from YAML text, its unnamed steps named by position. -/
def Scenario.parse (text : String) : Except String Scenario := do
  let sc ← decodeText Scenario.decoder text {}
  if sc.steps.isEmpty then throw "scenario has no steps"
  let named := (List.range sc.steps.length).zip sc.steps |>.map fun (i, st) =>
    if st.name.isEmpty then { st with name := "step" ++ toString (i + 1) } else st
  return { sc with steps := named }

/-- The settings of a step, or why it has none. -/
def Step.resolve (st : Step) : Except String AppConfig := do
  let mut cfg : AppConfig := {}
  if !st.world.isEmpty then cfg := { cfg with world := st.world }
  if !st.preset.isEmpty then
    match preset? cfg.world st.preset with
    | some p => cfg := p
    | none => throw (st.name ++ ": unknown preset " ++ st.preset ++ " for " ++ cfg.world)
  if let some node := st.config then
    match runDecoder AppConfig.decoder node cfg with
    | .ok c => cfg := c
    | .error e => throw (st.name ++ ": " ++ e)
  if let some f := cfg.validate then throw (st.name ++ ": " ++ f.message)
  return cfg

end Multibody.App
