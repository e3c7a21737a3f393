import Multibody.Observe.Registry

/-!
# The simulator's instruments

A simulator reports through eight instruments: its state (0 idle, 1
running, 2 paused), the last frame computed, the number of bodies taking
part in the dynamics, a histogram of step wall times, counters of flushes and
of body frames flushed, a counter of controller failures, and a family of
finished runs by outcome.

Creating them in a registry reuses instruments already registered under the
same names when they can stand in: a gauge where a counter is wanted, a
summary where a histogram is.  An instrument of another type is refused.
-/

namespace Multibody.Observe

/-- Where each of the simulator's instruments sits in its registry. -/
structure Meter where
  registry : Registry
  state : Nat
  frame : Nat
  active : Nat
  step : Nat
  flushes : Nat
  flushed : Nat
  failures : Nat
  runs : Nat
  deriving Inhabited

/-- The role an instrument plays, which decides what may stand in for it. -/
inductive Role where
  | gauge
  | counter
  | histogram
  | counterFamily

/-- Whether an instrument of a kind can play a role. -/
def Role.accepts : Role → Kind → Bool
  | .gauge, k => k == .gauge
  | .counter, k => k == .gauge || k == .counter
  | .histogram, k => k == .histogram || k == .summary
  | .counterFamily, k => k == .counterFamily

/-- Registers an instrument for a role, or takes the one already there. -/
def claim (r : Registry) (role : Role) (i : Instrument) : Except String (Registry × Nat) := do
  match ← r.register i with
  | (r, .added k) => return (r, k)
  | (r, .existing k) =>
    if role.accepts (r.instruments[k]!).kind then return (r, k)
    else throw ("collector " ++ i.name ++ " already registered with incompatible type")

/-- The step time buckets, in seconds. -/
def stepBuckets : List Float := [0.00001, 0.00005, 0.0001, 0.0005, 0.001, 0.005, 0.01, 0.05, 0.1]

/-- An instrument with a name, kind and help text. -/
def instrument (name : String) (kind : Kind) (help : String) : Instrument :=
  { name, kind, help }

/-- Creates the simulator's instruments in a registry. -/
def Meter.create (r : Registry) : Except String Meter := do
  let (r, state) ← claim r .gauge (instrument "simulator_state" .gauge
    "Simulator state: 0 idle, 1 running, 2 paused.")
  let (r, frame) ← claim r .gauge (instrument "simulator_frame" .gauge
    "Last frame computed by the simulation goroutine.")
  let (r, active) ← claim r .gauge (instrument "simulator_active_bodies" .gauge
    "Number of bodies taking part in the dynamics step.")
  let (r, step) ← claim r .histogram { instrument "simulator_step_duration_seconds" .histogram
    "Wall time of one simulation step including hooks." with bounds := stepBuckets }
  let (r, flushes) ← claim r .counter (instrument "simulator_flushes_total" .counter
    "Flushes that published at least one frame.")
  let (r, flushed) ← claim r .counter (instrument "simulator_flushed_frames_total" .counter
    "Body frames published to body items.")
  let (r, failures) ← claim r .counter (instrument "simulator_controller_failures_total" .counter
    "Controllers that failed during a run.")
  let (r, runs) ← claim r .counterFamily { instrument "simulator_runs_total" .counterFamily
    "Finished runs by outcome." with labelNames := ["outcome"] }
  return { registry := r, state, frame, active, step, flushes, flushed, failures, runs }

namespace Meter

/-- Changes one instrument. -/
def modify (m : Meter) (k : Nat) (f : Instrument → Instrument) : Meter :=
  { m with registry := m.registry.modify k f }

/-- Sets the state gauge. -/
def setState (m : Meter) (code : Int) : Meter := m.modify m.state (·.set (Float.ofInt code))

/-- Sets the frame gauge. -/
def setFrame (m : Meter) (frame : Int) : Meter := m.modify m.frame (·.set (Float.ofInt frame))

/-- Sets the active-bodies gauge. -/
def setActive (m : Meter) (n : Nat) : Meter := m.modify m.active (·.set n.toFloat)

/-- Records the wall time of a step, in nanoseconds. -/
def observeStep (m : Meter) (nanos : Int) : Meter :=
  let secs := Float.ofInt (nanos.tdiv 1000000000) + Float.ofInt (nanos.tmod 1000000000) / 1e9
  m.modify m.step (·.observe secs)

/-- Records a flush that published `frames` body frames; none is no flush. -/
def observeFlush (m : Meter) (frames : Int) : Meter :=
  if frames ≤ 0 then m
  else (m.modify m.flushes (·.add 1.0)).modify m.flushed (·.add (Float.ofInt frames))

/-- Counts a controller failure. -/
def incFailures (m : Meter) : Meter := m.modify m.failures (·.add 1.0)

/-- Counts a finished run by its outcome. -/
def incRuns (m : Meter) (abnormal : Bool) : Meter :=
  m.modify m.runs (·.incMember [if abnormal then "abnormal" else "normal"])

end Meter

end Multibody.Observe
