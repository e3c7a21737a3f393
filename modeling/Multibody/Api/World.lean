import Multibody.Api.Fields
import Multibody.Models.Build
import Multibody.Body.Snapshot

/-!
# Worlds from requests

Requests describe bodies as nested link specifications or as models of the
library, and may mount a body on a link of another.  This module builds them
into an assembly and keeps the names by which later parts of the request
refer to the bodies.
-/

namespace Multibody.Api

/-- The joint kind of a `joint` member: a name or a numeric code. -/
def jointOf (j : Json) : Reply JointType :=
  match j.get? "joint" with
  | none => .ok .fixed
  | some (.int c) => .ok (JointType.ofCode c)
  | some (.str s) =>
    match JointType.ofName? s with
    | some t => .ok t
    | none => .error (badInput ("unknown joint " ++ s))
  | some _ => .error (badInput "field joint: not a joint")

/-- Joint limits from a `limits` member. -/
def limitsOf (j : Json) : Reply JointLimits := do
  let l := object j "limits"
  return { qLower := ← float l "q_lower" 0.0, qUpper := ← float l "q_upper" 0.0,
           dqLower := ← float l "dq_lower" 0.0, dqUpper := ← float l "dq_upper" 0.0,
           uLower := ← float l "u_lower" 0.0, uUpper := ← float l "u_upper" 0.0 }

/-- Adds a link and its descendants from a link specification. -/
def addLinkSpec (a : Assembly) (spec : Json) : Nat → Reply (Assembly × LinkId)
  | 0 => .error (badInput "link tree too deep")
  | fuel + 1 => do
    let name ← str spec "name" ""
    let jt ← jointOf spec
    let axis ← vec3 spec "axis" Vec3.unitZ
    let offset ← transform spec "offset"
    let mass ← float spec "mass" 0.0
    let com ← vec3 spec "com" Vec3.zero
    let inertia ← match ← floats? spec "inertia" with
      | some xs => pure (Mat3.ofList xs.toList)
      | none => pure Mat3.ident
    let qInitial ← float spec "q_initial" 0.0
    let q ← float spec "q" 0.0
    let dq ← float spec "dq" 0.0
    let u ← float spec "u" 0.0
    let limits ← limitsOf spec
    let material ← str spec "material" ""
    let (a, shape) ← match spec.get? "shape" with
      | some s => do
        let g : Geometry := ⟨← str s "name" name, ← float s "radius" 0.0, ← vec3 s "center" Vec3.zero⟩
        let (a, sh) := a.newShape g
        pure (a, some sh)
      | none => pure (a, none)
    let l : Link := {
      name := name, jointType := jt, axis := axis, offset := offset, mass := mass, com := com,
      inertia := inertia, qInitial := qInitial, joint := { q := q, dq := dq, u := u },
      limits := limits, material := material, shape := shape }
    let l ← match spec.get? "damping" with
      | some _ => do pure (l.setInfo "damping" (.num (← float spec "damping" 0.0)))
      | none => pure l
    let l := (object spec "info").fields.foldl (fun l (k, v) => l.setInfo k v) l
    let (a, id) := a.addLink l
    (list spec "children").foldlM (fun (a, id) child => do
      let (a, c) ← addLinkSpec a child fuel
      pure (a.appendChild id c, id)) (a, id)

/-- A device from its specification. -/
def deviceOf (d : Json) : Reply Device := do
  return { name := ← str d "name" "", kind := ← str d "kind" "", linkIndex := ← int d "link" 0,
           on := ← bool d "on" false, values := ← floats d "values" #[] }

/-- A material table from its specification; a repeated name keeps its last value. -/
def materialTableOf (m : Json) : Reply MaterialTable := do
  let pairs (key : String) : Reply (List (String × Float)) :=
    (object m key).fields.foldlM (fun acc (k, v) =>
      match v.float? with
      | some x => .ok (acc.filter (·.1 != k) ++ [(k, x)])
      | none => .error (badInput ("material " ++ k ++ ": not a number"))) []
  return ⟨← pairs "friction", ← pairs "restitution"⟩

/-- Builds a body from its specification, in the documented order: tree,
model name, static flag, devices, materials, root pose, initial state,
kinematics. -/
def addBodySpec (a : Assembly) (spec : Json) : Reply (Assembly × BodyId) := do
  let name ← str spec "name" ""
  if ← bool spec "no_root" false then
    return a.addBody name none
  let (a, root) ← match spec.get? "root" with
    | some r => addLinkSpec a r 10000
    | none => pure (a.addLink { name := name })
  let (a, b) := a.addBody name (some root)
  let a ← match ← str? spec "model_name" with
    | some m => pure (a.modifyBody b fun bd => { bd with modelName := m })
    | none => pure a
  let st ← bool spec "static" false
  let a := a.modifyBody b fun bd => { bd with staticModel := st }
  let devices ← (list spec "devices").mapM deviceOf
  let a := devices.foldl (fun a d => a.addDevice b d) a
  let a ← match spec.get? "materials" with
    | some m => do
      let t ← materialTableOf m
      let (a, mats) := a.newMaterials t
      pure (a.modifyBody b fun bd => { bd with materials := some mats })
    | none => pure a
  let a ← match ← transform? spec "root_pose" with
    | some t => ofFault (a.setRootPose b t)
    | none => pure a
  let a ← if ← bool spec "init_state" false then ofFault (a.initializeState b) else pure a
  let a := if ← bool spec "fk" true then a.forwardKinematics b else a
  return (a, b)

/-- Model parameters from a `params` member. -/
def modelParamsOf (p : Json) : Reply ModelParams := do
  return { mass := ← float p "mass" 0.0, length := ← float p "length" 0.0,
           damping := ← float p "damping" 0.0, theta := ← float p "theta" 0.0,
           theta2 := ← float p "theta2" 0.0, links := ← int p "links" 0, count := ← int p "count" 0,
           height := ← float p "height" 0.0, thrust := ← float p "thrust" 0.0,
           hover := ← bool p "hover" false }

/-- The bodies of a request, in order, and the names that refer to them. -/
structure Scene where
  assembly : Assembly
  bodies : Array BodyId := #[]
  names : List (String × BodyId) := []

/-- The body a name refers to; the latest binding of a name wins. -/
def Scene.find? (s : Scene) (name : String) : Option BodyId :=
  (s.names.find? (·.1 == name)).map (·.2)

/-- The body a member names, or the unknown-body answer. -/
def Scene.resolve (s : Scene) (name : String) : Reply BodyId :=
  match s.find? name with
  | some b => .ok b
  | none => .error (badInput ("unknown body \"" ++ name ++ "\""))

/-- Builds world entries: models and body specifications, then the mounts
in entry order.  A model or mount failure is the `build` error answer. -/
def buildScene (a : Assembly) (entries : List Json) : Reply Scene := do
  let mut s : Scene := { assembly := a }
  let mut mounts : Array (BodyId × Json) := #[]
  for e in entries do
    let built : Array BodyId ← match e.get? "model" with
      | some (.str m) => do
        let p ← modelParamsOf (object e "params")
        match s.assembly.buildModel m p with
        | some (a, bs) =>
          s := { s with assembly := a, names := bs.reverse.map (fun b => ((a.body b).name, b)) ++ s.names }
          pure bs.toArray
        | none => throw (failure "build" (Assembly.unknownModelMessage m))
      | _ => do
        let (a, b) ← addBodySpec s.assembly (object e "body")
        let nickname ← match ← str? e "as" with
          | some n => pure n
          | none => pure (a.body b).name
        s := { s with assembly := a, names := (nickname, b) :: s.names }
        pure #[b]
    s := { s with bodies := s.bodies ++ built }
    match e.get? "mount", built.back? with
    | some m, some last => mounts := mounts.push (last, m)
    | _, _ => pure ()
  for (b, m) in mounts do
    let parentName ← str m "body" ""
    let parent ← s.resolve parentName
    let idx ← int m "link" 0
    let offset ← transform m "offset"
    let (a, err) ← ofFault (s.assembly.mount b (s.assembly.linkAt? parent idx) offset)
    match err with
    | some msg => throw (failure "build" msg)
    | none => s := { s with assembly := a }
  return s

end Multibody.Api
