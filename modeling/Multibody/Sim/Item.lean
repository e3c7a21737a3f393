import Multibody.Body.Snapshot
import Multibody.Control.Controller

/-!
# Worlds, body items and recordings

A world lists the body items a simulator takes its bodies from, and carries
the timeline.  A body item owns a master body (which runs never change), the
controllers declared for it, the last state published for it, and its
recording: the published snapshots, of which a positive capacity keeps the
most recent ones.
-/

namespace Multibody.Sim

/-- Published snapshots of one body. -/
structure Recording where
  capacity : Int := 0
  frames : Array Snapshot := #[]
  deriving Inhabited

namespace Recording

/-- Keeps only the newest `capacity` frames when the capacity is positive. -/
def trim (r : Recording) : Recording :=
  if r.capacity ≤ 0 ∨ r.frames.size ≤ r.capacity.toNat then r
  else { r with frames := r.frames.extract (r.frames.size - r.capacity.toNat) r.frames.size }

/-- Sets the capacity and trims. -/
def setCapacity (r : Recording) (c : Int) : Recording := { r with capacity := c }.trim

/-- Appends frames and trims. -/
def append (r : Recording) (fs : Array Snapshot) : Recording :=
  { r with frames := r.frames ++ fs }.trim

/-- The frame at an index. -/
def at? (r : Recording) (i : Int) : Option Snapshot :=
  if i < 0 then none else r.frames[i.toNat]?

/-- The newest frame. -/
def last? (r : Recording) : Option Snapshot := r.frames.back?

/-- The frame numbers, oldest first. -/
def frameNumbers (r : Recording) : Array Int := r.frames.map (·.frame)

/-- Drops every frame. -/
def clear (r : Recording) : Recording := { r with frames := #[] }

end Recording

/-- The time bar of a world; a run following it stops at its end. -/
structure Timeline where
  begin : Float := 0.0
  «end» : Float := 1.0 / 0.0
  current : Float := 0.0
  deriving Inhabited

/-- How close a time must come to the end of the timeline to reach it. -/
def timeEpsilon : Float := 1e-9

/-- Whether `t` is at or past the end of the timeline. -/
def Timeline.endReached (tl : Timeline) (t : Float) : Bool := t ≥ tl.«end» - timeEpsilon

/-- A controller declared for a body item; a required one that cannot start
aborts the start of a run. -/
structure Attachment where
  controller : Nat
  required : Bool
  deriving Inhabited

/-- The handle of one body. -/
structure BodyItem where
  name : String
  master : BodyId
  controllers : Array Attachment := #[]
  state : Option Snapshot := none
  recording : Recording := {}
  /-- ids of the state listeners, in registration order -/
  listeners : Array Nat := #[]
  nextListener : Nat := 0
  /-- the calls made to the state listeners, oldest first: the listener's id
  and the state it was given -/
  notices : Array (Nat × Snapshot) := #[]
  deriving Inhabited

namespace BodyItem

/-- Publishes frames: the last one becomes the state, and all are recorded
when `record` holds.  Each listener, by increasing id, is then told the new
state once. -/
def publish (bi : BodyItem) (frames : Array Snapshot) (record : Bool) : BodyItem :=
  match frames.back? with
  | none => bi
  | some last =>
    let bi := if record then { bi with recording := bi.recording.append frames } else bi
    let told := (bi.listeners.toList.mergeSort (· ≤ ·)).map fun l => (l, last)
    { bi with state := some last, notices := bi.notices ++ told.toArray }

/-- Drops the published state and the recording. -/
def resetState (bi : BodyItem) : BodyItem :=
  { bi with state := none, recording := bi.recording.clear }

end BodyItem

/-- A named collection of body items (by index) and its timeline. -/
structure World where
  name : String
  timeline : Timeline := {}
  bodies : Array Nat := #[]
  deriving Inhabited

namespace World

/-- Adds an item, refusing the same item twice and two items of one name. -/
def addBody (w : World) (items : Array BodyItem) (i : Nat) : Except String World :=
  let name := (items.getD i default).name
  match w.bodies.find? (fun j => j == i || (items.getD j default).name == name) with
  | some j =>
    if j == i then .error ("body " ++ name ++ " already in world " ++ w.name)
    else .error ("duplicate body name " ++ name ++ " in world " ++ w.name)
  | none => .ok { w with bodies := w.bodies.push i }

/-- Removes an item; `false` when it was not in the world. -/
def removeBody (w : World) (i : Nat) : World × Bool :=
  if w.bodies.contains i then ({ w with bodies := w.bodies.filter (· != i) }, true)
  else (w, false)

/-- The first item with a name. -/
def findBody? (w : World) (items : Array BodyItem) (name : String) : Option Nat :=
  w.bodies.find? fun j => (items.getD j default).name == name

end World

end Multibody.Sim
