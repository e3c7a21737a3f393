import Multibody.Api.Collector
import Multibody.Monitor.Model

/-!
# The monitor as a request

The `monitor` request builds a session from the `run` command's flags and
settings text, opens a monitor on its simulator and drives the monitor's
model step by step, without a screen: starting its event wait, taking queued
events, pressing keys, ticking, viewing, closing the monitor, asking the
simulator's state, and running the session with keys pressed at given
frames.

Each pause of a run is met by the request's pause steps, on the held run (a
single key, `p` unless told otherwise, which resumes it); a run still held
after them is resumed.  The answers of the pause steps are kept per pause.
-/

namespace Multibody.Api

open App Sim Monitor

/-- A key pressed when a run reaches a frame. -/
structure KeyAt where
  frame : Int
  key : String
  deriving Inhabited

/-- What the request keeps beside the session: the monitor's inbox and
model, whether the model waits for an event, the pause steps and the answers
given in each pause. -/
structure Desk where
  inbox : Inbox := {}
  model : Model
  listening : Bool := false
  onPause : List Json := []
  pauses : Array (Array Json) := #[]
  deriving Inhabited

/-- The rig of a monitored session. -/
abbrev DeskRig := Rig KeyAt Desk

/-- The rig with a changed desk. -/
def DeskRig.modifyDesk (rig : DeskRig) (f : Desk → Desk) : DeskRig :=
  Rig.modifyCrew rig fun c => { c with own := f c.own }

/-- A key by its request name: `space` is the blank. -/
def keyName (k : String) : String := if k == "space" then " " else k

/-- Presses a key; `true` when the model asks to quit. -/
def pressKey (key : String) (rig : DeskRig) : DeskRig × Bool :=
  let (m, rig, next) := rig.session.own.model.onKey (keyName key) rig
  (DeskRig.modifyDesk rig fun d => { d with model := m }, next == .quit)

/-- Feeds queued events to a listening model, at most `max` of them; the
names of the events handled, and whether the model quit on `finished`. -/
def takeEvents (max : Option Nat) (rig : DeskRig) : DeskRig × List String × Option Bool :=
  let rec go : Nat → DeskRig → List String → Option Bool → DeskRig × List String × Option Bool
    | 0, rig, names, quit => (rig, names.reverse, quit)
    | fuel + 1, rig, names, quit =>
      let d := rig.session.own
      if !d.listening || (max.map fun n => decide (names.length ≥ n)).getD false then (rig, names.reverse, quit)
      else match d.inbox.take? with
        | none => (rig, names.reverse, quit)
        | some (ev, inbox) =>
          let (m, next) := d.model.onEvent ev rig
          let finished := ev.kind == .finished
          let rig := DeskRig.modifyDesk rig fun d =>
            { d with inbox, model := m, listening := next == .listen }
          go fuel rig (ev.kind.name :: names) (if finished then some (next == .quit) else quit)
  go (rig.session.own.inbox.events.size + 1) rig [] none

/-- Ticks the model `n` times. -/
def tickTimes (n : Nat) (rig : DeskRig) : DeskRig :=
  (List.range n).foldl (fun rig _ =>
    DeskRig.modifyDesk rig fun d => { d with model := (d.model.onTick rig).1 }) rig

/-- A step's name and its object form. -/
def stepOf (step : Json) : String × Json :=
  match step with
  | .str name => (name, .obj [("do", .str name)])
  | j => ((match j.get? "do" with
      | some (.str name) => name
      | _ => ""), j)

/-- A step that needs no run of its own: its answer fields. -/
def deskStep (name : String) (step : Json) (rig : DeskRig) : Reply (DeskRig × List (String × Json)) := do
  match name with
  | "init" => return (DeskRig.modifyDesk rig fun d => { d with listening := true }, [])
  | "events" =>
    let max ← (int? step "max").map (·.map Int.toNat)
    let (rig, names, quit) := takeEvents max rig
    return (rig, [("events", .arr (names.map .str))] ++
      (match quit with
       | some q => [("quit", .bool q)]
       | none => []))
  | "key" =>
    let (rig, quit) := pressKey (← str step "key" "") rig
    return (rig, [("quit", .bool quit)])
  | "resize" => return (rig, [("cmd", .bool false)])
  | "tick" => return (tickTimes (← count step "n") rig, [])
  | "view" => return (rig, [("view", .str (rig.session.own.model.view rig))])
  | "close" => return (DeskRig.modifyDesk rig fun d => { d with inbox := d.inbox.close }, [])
  | "state" => return (rig, [("state", .str rig.sim.state.name), ("frame", .int rig.sim.simFrame)])
  | _ => throw (badInput ("unknown step " ++ name))

/-- Meets a pause: the pause steps in order, an error ending them as an
answer of its own; then the run is resumed if still held. -/
def meetPause (rig : DeskRig) : DeskRig := Id.run do
  let mut rig := rig
  let mut answers : Array Json := #[]
  for step in rig.session.own.onPause do
    let (name, j) := stepOf step
    let r : Reply (DeskRig × List (String × Json)) :=
      if name == "start" || name == "wait" then .error (badInput ("step " ++ name ++ " cannot run in a pause"))
      else deskStep name j rig
    match r with
    | .ok (rig', fields) =>
      rig := rig'
      answers := answers.push (.obj ([("do", .str name)] ++ fields))
    | .error e =>
      answers := answers.push e
      break
  rig := DeskRig.modifyDesk rig fun d => { d with pauses := d.pauses.push answers }
  if rig.sim.state == .paused then rig := rig.restart.1
  return rig

/-- How the request takes part in runs: keys at frames, the monitor's inbox
and the pause steps. -/
def deskExtension : Extension KeyAt Desk :=
  { hook := fun _ ka rig => if rig.sim.currentFrame == ka.frame then ((pressKey ka.key rig).1, none) else (rig, none),
    event := fun ev rig =>
      let rig := DeskRig.modifyDesk rig fun d => { d with inbox := d.inbox.offer ev }
      if ev.kind == .paused then meetPause rig else rig }

/-- The pause steps of a request: a key, or a list of steps. -/
def pauseSteps (req : Json) : List Json :=
  match req.get? "on_pause" with
  | some (.str k) => [.obj [("do", .str "key"), ("key", .str k)]]
  | some (.arr steps) => steps
  | _ => [.obj [("do", .str "key"), ("key", .str "p")]]

/-- The `monitor` request. -/
def monitorAnswer (req : Json) : Reply Json := do
  let cfg ← match ← requestConfig req with
    | .ok cfg => pure cfg
    | .error e => return failure "config" e
  let scale ← float req "scale" 0.0
  let desk : Desk := { model := Model.create scale .idle, onPause := pauseSteps req }
  let mut s ← match (App.Session.create cfg none none desk : Except String (App.Session KeyAt Desk)) with
    | .ok s => pure s
    | .error e => return failure "session" e
  let mut answers : Array Json := #[]
  for step in list req "steps" do
    let (name, j) := stepOf step
    let mut fields : List (String × Json) := []
    if name == "start" then
      let mut rig := s.rig
      for ka in list j "keys_at" do
        let k : KeyAt := { frame := ← int ka "frame" 0, key := ← str ka "key" "" }
        rig := (rig.addHook .post (.extra k)).1
      let (s', err) := { s with rig }.start deskExtension
      s := s'
      fields := match err with
        | some e => [("error", .str e)]
        | none => [("finish", runEndJson s.finish)]
    else if name == "wait" then
      fields := [("finish", runEndJson s.finish)]
    else
      let (rig, fs) ← deskStep name j s.rig
      s := { s with rig }
      fields := fs
    answers := answers.push (.obj ([("do", .str name)] ++ fields))
  let paused := s.rig.session.own.pauses.toList.map fun a => Json.arr a.toList
  return .obj [("steps", .arr answers.toList), ("paused", .arr paused)]

end Multibody.Api
