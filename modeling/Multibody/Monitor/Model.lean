import Multibody.Monitor.Canvas
import Multibody.Sim.Simulator
import Multibody.Text.Plot
import Multibody.Decimal.Format

/-!
# The monitor

The monitor watches a running simulator from outside, with an inbox of at
most 64 events.  On every tick it samples the published frame, time and
state and redraws the canvas from the published snapshots; the first joint
of the first body feeds a history of 60 values.  Keys quit, pause or resume,
clear, and double or halve the scale; the view shows the world, the state,
the canvas, the joint values, the history and the last messages.
-/

namespace Multibody.Monitor

open Sim Decimal

/-- How many events the inbox holds. -/
def inboxCapacity : Nat := 64

/-- How many values the history keeps. -/
def historyLength : Nat := 60

/-- The most joints a line shows. -/
def shownJoints : Nat := 6

/-- The events waiting for the model, while the monitor is open. -/
structure Inbox where
  accepting : Bool := true
  events : Array Event := #[]
  deriving Inhabited

namespace Inbox

/-- Takes an event in when open and not full. -/
def offer (b : Inbox) (ev : Event) : Inbox :=
  if b.accepting && b.events.size < inboxCapacity then { b with events := b.events.push ev } else b

/-- The oldest waiting event and the inbox without it. -/
def take? (b : Inbox) : Option (Event × Inbox) :=
  b.events[0]?.map fun ev => (ev, { b with events := b.events.extract 1 b.events.size })

/-- Stops taking events in. -/
def close (b : Inbox) : Inbox := { b with accepting := false }

theorem offer_size_le (b : Inbox) (ev : Event) (h : b.events.size ≤ inboxCapacity) :
    (b.offer ev).events.size ≤ inboxCapacity := by
  unfold offer
  split
  · rename_i hc
    simp only [Bool.and_eq_true, decide_eq_true_eq] at hc
    obtain ⟨_, hlt⟩ := hc
    simp only [Array.size_push]
    omega
  · exact h

/-- A closed inbox takes nothing in. -/
theorem close_offer (b : Inbox) (ev : Event) : b.close.offer ev = b.close := by
  simp only [offer, close, Bool.false_and, Bool.false_eq_true, if_false]

end Inbox

/-- What the model asks for after an update. -/
inductive Next where
  /-- nothing -/
  | none
  /-- end the program -/
  | quit
  /-- the next tick -/
  | tick
  /-- the next event -/
  | listen
  deriving BEq, Inhabited, Repr

/-- What the monitor shows and remembers between updates. -/
structure Model where
  canvas : Canvas
  state : SimState
  frame : Int := 0
  simTime : Float := 0.0
  active : Nat := 0
  finished : Bool := false
  finish : FinishInfo := {}
  quitting : Bool := false
  message : String := ""
  history : Array Float := #[]
  lastError : Option String := none
  deriving Inhabited

namespace Model

variable {τ σ : Type}

/-- A fresh model of a simulator; a scale that is not positive means 8
cells per meter. -/
def create (scale : Float) (state : SimState) : Model :=
  { canvas := { scale := if scale ≤ 0.0 then 8.0 else scale }, state }

/-- Reads what the simulator published and redraws the canvas. -/
def sample (m : Model) (lab : Lab τ σ) : Model := Id.run do
  let mut m := { m with frame := lab.sim.simFrame, simTime := lab.simulationTime,
                        state := if m.finished then m.state else lab.sim.state }
  let mut canvas := m.canvas.clear
  let mut history := m.history
  let bodies := lab.world.bodies
  for k in [0:bodies.size] do
    let some s := (lab.items.getD (bodies.getD k 0) default).state | continue
    if k == 0 && s.q.size > 0 then
      history := history.push (s.q.getD 0 0.0)
      if history.size > historyLength then history := history.extract 1 history.size
    canvas := canvas.drawBody s (k == 0)
  return { m with canvas := canvas.drawTrail, history }

/-- A tick: sample, then quit once finished and asked to. -/
def onTick (m : Model) (lab : Lab τ σ) : Model × Next :=
  let m := m.sample lab
  (m, if m.finished && m.quitting then .quit else .tick)

/-- A simulator event. -/
def onEvent (m : Model) (ev : Event) (lab : Lab τ σ) : Model × Next :=
  match ev.kind with
  | .started | .resumed => ({ m with state := .running, message := "" }, .listen)
  | .paused => ({ m with state := .paused, message := "paused" }, .listen)
  | .bodyListUpdated => ({ m with active := ev.active.size }, .listen)
  | .finished =>
    let m := ({ m with state := .idle, finished := true, finish := ev.finish } : Model).sample lab
    (m, if m.quitting then .quit else .none)

/-- A key, by its name: a character, or `esc`, `ctrl+c`, `enter`, and a
blank for space. -/
def onKey (m : Model) (key : String) (lab : Lab τ σ) : Model × Lab τ σ × Next :=
  match key with
  | "q" | "esc" | "ctrl+c" =>
    let m := { m with quitting := true }
    if m.finished || lab.sim.state == .idle then (m, lab, .quit)
    else ({ m with message := "stopping" }, lab.requestStop, .none)
  | " " | "p" =>
    let (lab, err) := if lab.sim.state == .paused then lab.restart else lab.pause
    ({ m with lastError := err.map (·.message) }, lab, .none)
  | "c" => ({ m with canvas := { m.canvas with trail := #[] }, history := #[] }, lab, .none)
  | "+" | "=" => ({ m with canvas := { m.canvas with scale := m.canvas.scale * 2.0 } }, lab, .none)
  | "-" | "_" => ({ m with canvas := { m.canvas with scale := m.canvas.scale / 2.0 } }, lab, .none)
  | _ => (m, lab, .none)

/-- A number right-aligned in seven places with three decimals. -/
def jointNumber (x : Float) : String := padLeft 7 (fixed 3 x)

/-- The joint values of a body: positions and, where recorded, velocities. -/
def jointLine (name : String) (s : Snapshot) : String := Id.run do
  let mut out := name ++ String.ofList (List.replicate (12 - name.length) ' ')
  for i in [0:s.q.size] do
    if i ≥ shownJoints then
      out := out ++ " …"
      break
    out := out ++ " q" ++ toString i ++ "=" ++ jointNumber (s.q.getD i 0.0)
    if i < s.dq.size then out := out ++ " dq=" ++ jointNumber (s.dq.getD i 0.0)
  return out ++ "\n"

/-- The state as the header shows it. -/
def stateLabel : SimState → String
  | .running => "● running"
  | .paused => "‖ paused"
  | .idle => "○ idle"

/-- A rule across the canvas. -/
def rule : String := String.ofList (List.replicate canvasWidth '─') ++ "\n"

/-- The monitor's screen. -/
def view (m : Model) (lab : Lab τ σ) : String := Id.run do
  let mut out := lab.world.name ++ "  " ++ stateLabel m.state ++
    "  frame " ++ toString m.frame ++ "  t=" ++ fixed 3 m.simTime ++ "s" ++
    (if m.active > 0 then "  active " ++ toString m.active else "") ++ "\n"
  out := out ++ rule ++ m.canvas.render ++ rule
  for i in lab.world.bodies do
    let bi := lab.items.getD i default
    let some s := bi.state | continue
    if s.q.isEmpty then continue
    out := out ++ jointLine bi.name s
  if m.history.size > 1 then
    match Text.plot m.history { height := 5, width := historyLength, precision := 2 } with
    | .ok graph => out := out ++ "\n" ++ graph ++ "\n"
    | .error _ => pure ()
  if m.finished then
    out := out ++ "\n" ++
      (if m.finish.abnormal then
        "finished abnormally at frame " ++ toString m.finish.frame ++ ": " ++
          ((m.finish.err.map (·.message)).getD "<nil>")
      else "finished at frame " ++ toString m.finish.frame ++ " (" ++ fixed 3 m.finish.time ++ "s)") ++ "\n"
  else if !m.message.isEmpty then
    out := out ++ "\n" ++ m.message ++ "\n"
  if let some e := m.lastError then out := out ++ e ++ "\n"
  return out ++ "\nspace pause  +/- zoom  c clear  q quit\n"

end Model

end Multibody.Monitor
