import Multibody.Api.World
import Multibody.Control.Controller

/-!
# Driving a controller by hand

The `controller` request binds a controller to a body and feeds it joint
states step by step, answering the efforts it writes; the `options` request
shows how an option string is read.
-/

namespace Multibody.Api

open Control

/-- Controller parameters from JSON. -/
def paramsOf (p : Json) : Reply Params := do
  let gains ← (list p "gains").mapM fun row => floatsOf "gains" row
  return { kp := ← float p "kp" 0.0, ki := ← float p "ki" 0.0, kd := ← float p "kd" 0.0,
           target := ← float p "target" 0.0, duration := ← float p "duration" 0.0,
           gains := gains.toArray }

/-- A PID controller's gains by name. -/
def pidParamsJson (g : PidGains) : Json :=
  .obj [("Kd", .num g.kd), ("Ki", .num g.ki), ("Kp", .num g.kp), ("Target", .num g.target)]

/-- Writes the given positions or rates into the body's joints in order. -/
def writeJoints (a : Assembly) (b : BodyId) (xs : Array Float) (set : Link → Float → Link) :
    Assembly :=
  ((a.body b).joints.zip xs).foldl (fun a (j, x) => a.modifyLink j (set · x)) a

/-- One step of the controller request: time, joint state, commands, then
input, control and (unless the controller failed) output. -/
def controlStep (env : Env) (a : Assembly) (b : BodyId) (c : Controller) (step : Json) :
    Reply (Env × Assembly × Controller × Json) := do
  let env := { env with time := ← float step "t" env.time }
  let a := writeJoints a b (← floats step "q" #[]) fun l x => { l with joint := { l.joint with q := x } }
  let a := writeJoints a b (← floats step "dq" #[]) fun l x => { l with joint := { l.joint with dq := x } }
  let c ← match ← floats? step "set" with
    | some u => pure (c.setRequested u)
    | none => pure c
  let c := if ← bool step "reset" false then c.resetIntegral else c
  let c := c.input a
  match c.control env with
  | .error msg => return (env, a, c, failure "panic" ("controller " ++ c.name ++ " panicked: " ++ msg))
  | .ok (c, verdict) =>
    let a := if Controller.writesOutput verdict then c.output a else a
    let u := (a.body b).joints.map fun j => (a.link j).joint.u
    return (env, a, c, .obj [("u", floatsJson u),
      ("err", Json.opt (fun f => .str f.message) verdict),
      ("done", .bool ((verdict.map (·.has .controllerDone)).getD false))])

/-- The `controller` request. -/
def controllerAnswer (req : Json) : Reply Json := do
  let scene ← buildScene {} [object req "body"]
  let b ← match scene.bodies[0]? with
    | some b => pure b
    | none => throw (badInput "controller: no body")
  let name ← str req "name" ""
  let law ← match Law.ofName? name (← paramsOf (object req "params")) with
    | some l => pure l
    | none => throw (failure "controller" (unknownMessage name))
  let env : Env := { options := ← str req "options" "", timeStep := ← float req "dt" 0.001, time := 0.0 }
  let a := scene.assembly
  match (Controller.ofLaw law).prepare a b env with
  | .error msg => throw (failure "panic" msg)
  | .ok (c, ok) =>
    if !ok then return .obj [("name", .str c.name), ("init", .bool ok), ("steps", .arr [])]
    let head := [("name", .str c.name), ("init", .bool ok)] ++
      (match c.law with
       | .pid g => [("params", pidParamsJson g)]
       | _ => [])
    let mut env := env
    let mut a := a
    let mut c := c
    let mut out : Array Json := #[]
    for step in list req "steps" do
      let (env', a', c', r) ← controlStep env a b c step
      env := env'
      a := a'
      c := c'
      out := out.push r
    return .obj (head ++ [("steps", .arr out.toList)])

/-- The `options` request: the parsed option string. -/
def optionsAnswer (req : Json) : Reply Json := do
  let opts := parseOptions (← str req "s" "")
  return .obj [("options", .obj (opts.map fun (k, v) => (k, .str v)))]

end Multibody.Api
