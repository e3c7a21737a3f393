import Multibody.Api.Fields
import Multibody.Sim.Run

/-!
# Simulation settings as JSON

Settings are changed by a patch: an object whose members each replace one
setting.  A patch is read once and can then be applied to any settings, so a
request can change the settings a simulator holds at the time it acts.  The
dump lists every setting, the modes by name and the flush period both in
nanoseconds and as a duration.
-/

namespace Multibody.Api

open Sim

/-- Changes to some of the settings. -/
structure ConfigPatch where
  timeStep : Option Float := none
  recording : Option RecordingMode := none
  tailFrames : Option Int := none
  timeRange : Option TimeRangeMode := none
  timeLength : Option Float := none
  selfCollision : Option Bool := none
  deviceStateOutput : Option Bool := none
  allLinkPositionOutput : Option Bool := none
  realtimeSync : Option Bool := none
  flushPeriod : Option Int := none
  controllerOptions : Option String := none
  deriving Inhabited

/-- A mode member given by name or by number. -/
def mode? {α : Type} (j : Json) (key : String) (parse : String → Except String α)
    (ofCode : Int → α) : Reply (Option α) :=
  match j.get? key with
  | none => .ok none
  | some (.int i) => .ok (some (ofCode i))
  | some (.str s) =>
    match parse s with
    | .ok m => .ok (some m)
    | .error msg => .error (badInput msg)
  | some _ => .error (badInput ("field " ++ key ++ ": not a mode"))

/-- Reads a patch from its JSON members. -/
def ConfigPatch.ofJson (j : Json) : Reply ConfigPatch := do
  return { timeStep := ← float? j "time_step",
           recording := ← mode? j "recording" RecordingMode.parse RecordingMode.ofCode,
           tailFrames := ← int? j "tail_frames",
           timeRange := ← mode? j "time_range" TimeRangeMode.parse TimeRangeMode.ofCode,
           timeLength := ← float? j "time_length",
           selfCollision := ← bool? j "self_collision",
           deviceStateOutput := ← bool? j "device_state_output",
           allLinkPositionOutput := ← bool? j "all_link_position_output",
           realtimeSync := ← bool? j "realtime_sync",
           flushPeriod := ← int? j "flush_period_ns",
           controllerOptions := ← str? j "controller_options" }

/-- The settings with the patch's members replaced. -/
def ConfigPatch.apply (p : ConfigPatch) (c : Config) : Config :=
  { timeStep := p.timeStep.getD c.timeStep,
    recording := p.recording.getD c.recording,
    tailFrames := p.tailFrames.getD c.tailFrames,
    timeRange := p.timeRange.getD c.timeRange,
    timeLength := p.timeLength.getD c.timeLength,
    selfCollision := p.selfCollision.getD c.selfCollision,
    deviceStateOutput := p.deviceStateOutput.getD c.deviceStateOutput,
    allLinkPositionOutput := p.allLinkPositionOutput.getD c.allLinkPositionOutput,
    realtimeSync := p.realtimeSync.getD c.realtimeSync,
    flushPeriod := p.flushPeriod.getD c.flushPeriod,
    controllerOptions := p.controllerOptions.getD c.controllerOptions }

/-- Every setting. -/
def configJson (c : Config) : Json :=
  .obj [("time_step", .num c.timeStep), ("recording", .str c.recording.name),
    ("tail_frames", .int c.tailFrames), ("time_range", .str c.timeRange.name),
    ("time_length", .num c.timeLength), ("self_collision", .bool c.selfCollision),
    ("device_state_output", .bool c.deviceStateOutput),
    ("all_link_position_output", .bool c.allLinkPositionOutput),
    ("realtime_sync", .bool c.realtimeSync), ("flush_period_ns", .int c.flushPeriod),
    ("flush_period", .str (Text.durationText c.flushPeriod)),
    ("controller_options", .str c.controllerOptions)]

/-- The names of the conditions a failure carries, in the reported order,
then the frame of a failure placed at a frame. -/
def errorKinds (f : Failure) : List String :=
  (Condition.reported.filter (f.has ·)).map Condition.kindName ++
    ((f.frame?).map fun n => ["simulation_error@" ++ toString n]).getD []

/-- The message of a failure, or `null`. -/
def failureJson (f : Option Failure) : Json := Json.opt (fun f => .str f.message) f

/-- How a run ended. -/
def finishJson (f : FinishInfo) : Json :=
  .obj [("frame", .int f.frame), ("time", .num f.time), ("abnormal", .bool f.abnormal),
    ("error", failureJson f.err)]

/-- How a run ended, with the names of what its failure carries. -/
def finishKindsJson (f : FinishInfo) : Json :=
  .obj [("frame", .int f.frame), ("time", .num f.time), ("abnormal", .bool f.abnormal),
    ("error", failureJson f.err),
    ("error_kinds", Json.ofStrings ((f.err.map errorKinds).getD []))]

end Multibody.Api
