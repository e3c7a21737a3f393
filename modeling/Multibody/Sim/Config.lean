import Multibody.Failure
import Multibody.Text.Duration
import Multibody.Text.Quoted

/-!
# Simulation settings

How a run records, when it ends and how it steps.  A recording mode or time
range given as a number outside the named ones is kept, and spelled with the
number.
-/

namespace Multibody.Sim

/-- What a run keeps of the frames it computes. -/
inductive RecordingMode where
  | full
  | tail
  | off
  | other (code : Int)
  deriving BEq, Inhabited, Repr

namespace RecordingMode

/-- The number of a mode. -/
def code : RecordingMode → Int
  | .full => 0
  | .tail => 1
  | .off => 2
  | .other c => c

/-- The mode of a number. -/
def ofCode (c : Int) : RecordingMode :=
  match c with
  | 0 => .full
  | 1 => .tail
  | 2 => .off
  | c => .other c

/-- The mode's name. -/
def name : RecordingMode → String
  | .full => "full"
  | .tail => "tail"
  | .off => "off"
  | .other c => "RecordingMode(" ++ toString c ++ ")"

/-- The mode of a name, or the message for an unknown one. -/
def parse (s : String) : Except String RecordingMode :=
  match s with
  | "full" => .ok .full
  | "tail" => .ok .tail
  | "off" => .ok .off
  | _ => .error ("unknown recording mode " ++ Text.quoted s)

end RecordingMode

/-- When a run ends by itself. -/
inductive TimeRangeMode where
  | unlimited
  | activeControl
  | specified
  | timeline
  | other (code : Int)
  deriving BEq, Inhabited, Repr

namespace TimeRangeMode

/-- The number of a mode. -/
def code : TimeRangeMode → Int
  | .unlimited => 0
  | .activeControl => 1
  | .specified => 2
  | .timeline => 3
  | .other c => c

/-- The mode of a number. -/
def ofCode (c : Int) : TimeRangeMode :=
  match c with
  | 0 => .unlimited
  | 1 => .activeControl
  | 2 => .specified
  | 3 => .timeline
  | c => .other c

/-- The mode's name. -/
def name : TimeRangeMode → String
  | .unlimited => "unlimited"
  | .activeControl => "active_control"
  | .specified => "specified"
  | .timeline => "timeline"
  | .other c => "TimeRangeMode(" ++ toString c ++ ")"

/-- The mode of a name, or the message for an unknown one. -/
def parse (s : String) : Except String TimeRangeMode :=
  match s with
  | "unlimited" => .ok .unlimited
  | "active_control" => .ok .activeControl
  | "specified" => .ok .specified
  | "timeline" => .ok .timeline
  | _ => .error ("unknown time range mode " ++ Text.quoted s)

end TimeRangeMode

/-- The settings of a run. -/
structure Config where
  timeStep : Float := 0.001
  recording : RecordingMode := .full
  tailFrames : Int := 1000
  timeRange : TimeRangeMode := .unlimited
  timeLength : Float := 60.0
  selfCollision : Bool := false
  deviceStateOutput : Bool := false
  allLinkPositionOutput : Bool := false
  realtimeSync : Bool := false
  /-- nanoseconds between publications of results -/
  flushPeriod : Int := 33000000
  controllerOptions : String := ""
  deriving Inhabited

namespace Config

/-- What is wrong with the settings, one failure per problem. -/
def problems (c : Config) : List Failure :=
  (if c.timeStep ≤ 0.0 then
    [.around "" (.condition .invalidTimeStep) (", got " ++ Decimal.general c.timeStep)] else []) ++
  (if c.recording == .tail && c.tailFrames ≤ 0 then
    [.note ("tail recording needs a positive frame count, got " ++ toString c.tailFrames)] else []) ++
  (if c.timeRange == .specified && c.timeLength ≤ 0.0 then
    [.note ("specified time range needs a positive length, got " ++ Decimal.general c.timeLength)]
   else []) ++
  (if c.flushPeriod < 0 then
    [.note ("flush period must not be negative, got " ++ Text.durationText c.flushPeriod)] else [])

/-- The settings' failure, joining every problem, or `none` when valid. -/
def validate (c : Config) : Option Failure := Failure.join? c.problems

/-- How many frames a body buffers between publications; `0` is unbounded. -/
def bufferCapacity (c : Config) : Nat :=
  match c.recording with
  | .tail => c.tailFrames.toNat
  | .off => 1
  | _ => 0

end Config

end Multibody.Sim
