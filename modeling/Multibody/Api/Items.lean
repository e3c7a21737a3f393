import Multibody.Api.Dump
import Multibody.Api.World
import Multibody.Sim.Item

/-!
# Worlds, body items and recordings as a request

The `items` request runs operations on one world, on body items named by
the request, and on recordings of their own: adding and removing items,
publishing frames, listening to published states, recording with a
capacity, and the world's timeline.  Recording operations address a
recording of its own before the recording of an item of the same id.
-/

namespace Multibody.Api

open Sim

/-- The state of an `items` request. -/
structure ItemBench where
  assembly : Assembly := {}
  items : Array BodyItem := #[]
  /-- item ids with their index in `items` -/
  ids : List (String × Nat) := []
  recordings : List (String × Recording) := []
  world : World
  /-- listener names with the item and listener id they were registered as -/
  listeners : List (String × Nat × Nat) := []
  /-- the listener name each (item, listener id) reports to -/
  owners : List ((Nat × Nat) × String) := []
  heard : List (String × Array Int) := []

/-- Sets `key` in an association list, replacing an earlier entry in place. -/
def assign {κ α : Type} [BEq κ] (entries : List (κ × α)) (key : κ) (v : α) : List (κ × α) :=
  if entries.any (·.1 == key) then entries.map fun (k, x) => if k == key then (k, v) else (k, x)
  else entries ++ [(key, v)]

namespace ItemBench

/-- The item of an id. -/
def item? (w : ItemBench) (id : String) : Option Nat := w.ids.lookup id

/-- The id of an item. -/
def idOf (w : ItemBench) (i : Nat) : String := ((w.ids.find? (·.2 == i)).map (·.1)).getD ""

/-- Replaces an item. -/
def modifyItem (w : ItemBench) (i : Nat) (f : BodyItem → BodyItem) : ItemBench :=
  { w with items := w.items.modify i f }

/-- Publishes frames to an item and tells its listeners the last one. -/
def publish (w : ItemBench) (i : Nat) (frames : Array Snapshot) (record : Bool) : ItemBench :=
  match frames.back? with
  | none => w
  | some last =>
    let w := w.modifyItem i fun bi => bi.publish frames record
    let ids := ((w.items.getD i default).listeners.toList.mergeSort (· ≤ ·))
    ids.foldl (fun w l =>
      match w.owners.lookup (i, l) with
      | some lid => { w with heard := assign w.heard lid (((w.heard.lookup lid).getD #[]).push last.frame) }
      | none => w) w

/-- The recording an id addresses: one of its own, else an item's. -/
def recording? (w : ItemBench) (id : String) : Option Recording :=
  match w.recordings.lookup id with
  | some r => some r
  | none => (w.item? id).map fun i => (w.items.getD i default).recording

/-- Changes the recording an id addresses. -/
def modifyRecording (w : ItemBench) (id : String) (f : Recording → Recording) : ItemBench :=
  match w.recordings.lookup id with
  | some r => { w with recordings := assign w.recordings id (f r) }
  | none => match w.item? id with
    | some i => w.modifyItem i fun bi => { bi with recording := f bi.recording }
    | none => w

end ItemBench

/-- A frame to publish: a snapshot object, or a number `n` standing for frame
`n` at `n` milliseconds. -/
def frameOf (j : Json) : Reply Snapshot :=
  match j with
  | .int n => .ok { frame := n, time := Float.ofInt n * 0.001, root := ⟨Vec3.zero, ⟨0.0, 0.0, 0.0, 0.0⟩⟩ }
  | _ => snapshotOf j

/-- The frames of an operation. -/
def framesOf (op : Json) : Reply (Array Snapshot) := do
  return (← (list op "frames").mapM frameOf).toArray

/-- Frame numbers as JSON. -/
def frameNumbersJson (ns : Array Int) : Json := .arr (ns.toList.map .int)

/-- One operation: the bench after it and its result. -/
def itemStep (w : ItemBench) (op : Json) : Reply (ItemBench × Json) := do
  let id ← str op "id" ""
  let item := w.item? id
  let needItem : Reply Nat := match item with
    | some i => .ok i
    | none => .error (badInput ("unknown item " ++ id))
  let withRecording (f : Recording → Json) : Json := ((w.recording? id).map f).getD .null
  match ← str op "do" "" with
  | "new_item" =>
    let name ← str op "name" ""
    let (a, b) ← (match op.get? "body" with
      | some spec => addBodySpec w.assembly spec
      | none => pure (w.assembly.addBody name none))
    let bi : BodyItem := { name := (a.body b).name, master := b }
    let i := w.items.size
    return ({ w with assembly := a, items := w.items.push bi, ids := assign w.ids id i }, .str bi.name)
  | "add" =>
    let i ← needItem
    return (match w.world.addBody w.items i with
      | .ok world => ({ w with world := world }, .null)
      | .error e => (w, .str e))
  | "remove" =>
    let (world, removed) := w.world.removeBody (← needItem)
    return ({ w with world := world }, .bool removed)
  | "find" =>
    let name ← str op "name" ""
    return (w, ((w.world.findBody? w.items name).map fun i => Json.str (w.idOf i)).getD .null)
  | "bodies" => return (w, .arr (w.world.bodies.toList.map fun i => .str (w.idOf i)))
  | "publish" =>
    let frames ← framesOf op
    let record ← bool op "record" true
    return (w.publish (← needItem) frames record, .null)
  | "state" => return (w, Json.opt snapshotJson (w.items.getD (← needItem) default).state)
  | "reset" => return (w.modifyItem (← needItem) BodyItem.resetState, .null)
  | "listen" =>
    let lid ← str op "lid" ""
    let i ← needItem
    let bi := w.items.getD i default
    let l := bi.nextListener + 1
    let w := w.modifyItem i fun bi => { bi with listeners := bi.listeners.push l, nextListener := l }
    return ({ w with listeners := assign w.listeners lid (i, l),
                     owners := assign w.owners (i, l) lid,
                     heard := assign w.heard lid #[] }, .null)
  | "unlisten" =>
    let lid ← str op "lid" ""
    return (match w.listeners.lookup lid with
      | some (i, l) =>
        let w := w.modifyItem i fun bi => { bi with listeners := bi.listeners.filter (· != l) }
        ({ w with listeners := w.listeners.filter (·.1 != lid) }, .null)
      | none => (w, .null))
  | "heard" =>
    let lid ← str op "lid" ""
    return (w, Json.opt frameNumbersJson (w.heard.lookup lid))
  | "new_recording" =>
    let r : Recording := { capacity := ← int op "capacity" 0 }
    return ({ w with recordings := assign w.recordings id r }, .null)
  | "rec_append" =>
    let frames ← framesOf op
    let w := w.modifyRecording id (·.append frames)
    return (w, ((w.recording? id).map fun r => frameNumbersJson r.frameNumbers).getD .null)
  | "rec_set_capacity" =>
    let n ← int op "n" 0
    let w := w.modifyRecording id (·.setCapacity n)
    return (w, ((w.recording? id).map fun r => frameNumbersJson r.frameNumbers).getD .null)
  | "rec_capacity" => return (w, withRecording fun r => .int r.capacity)
  | "rec_len" => return (w, withRecording fun r => .int r.frames.size)
  | "rec_at" =>
    let i ← int op "i" 0
    return (w, withRecording fun r => Json.opt snapshotJson (r.at? i))
  | "rec_last" => return (w, withRecording fun r => Json.opt snapshotJson r.last?)
  | "rec_frames" => return (w, withRecording fun r => frameNumbersJson r.frameNumbers)
  | "rec_all" => return (w, withRecording fun r => .arr (r.frames.toList.map snapshotJson))
  | "rec_clear" => return (w.modifyRecording id Recording.clear, .null)
  | "tl_set_range" =>
    let b ← float op "begin" 0.0
    let e ← float op "end" 0.0
    return ({ w with world := { w.world with timeline := { w.world.timeline with begin := b, «end» := e } } }, .null)
  | "tl_range" => return (w, Json.ofFloats [w.world.timeline.begin, w.world.timeline.«end»])
  | "tl_end_reached" => return (w, .bool (w.world.timeline.endReached (← float op "t" 0.0)))
  | "tl_set_current" =>
    let t ← float op "t" 0.0
    return ({ w with world := { w.world with timeline := { w.world.timeline with current := t } } }, .null)
  | "tl_current" => return (w, .num w.world.timeline.current)
  | other => throw (badInput ("unknown items op " ++ other))

/-- The `items` request. -/
def itemsAnswer (req : Json) : Reply Json := do
  let name ← str req "world" "world"
  let mut w : ItemBench := { world := { name := name } }
  let mut results : Array Json := #[]
  for op in list req "ops" do
    let (w', r) ← itemStep w op
    w := w'
    results := results.push r
  return .obj [("world", .str name), ("results", .arr results.toList)]

end Multibody.Api
