import Multibody.Body.Snapshot

/-!
# Snapshot slots

A request may keep snapshots in named slots and take a later snapshot over
a slot's storage.  Storage taken over is shared: the new joint values are
written into the slot's arrays when they have room for them, and the new
poses and device states overwrite the slot's leading entries.  What is
visible of a slot afterwards is its own length of each array.

The room of an array is its length rounded up to the allocator's size
classes, which is what a copy of the array reserves.
-/

namespace Multibody.Api

/-- The allocator's size classes in bytes, up to 32 KiB. -/
def sizeClasses : List Nat :=
  [8, 16, 24, 32, 48, 64, 80, 96, 112, 128, 144, 160, 176, 192, 208, 224, 240, 256,
   288, 320, 352, 384, 416, 448, 480, 512, 576, 640, 704, 768, 896, 1024, 1152, 1280,
   1408, 1536, 1792, 2048, 2304, 2688, 3072, 3200, 3456, 4096, 4864, 5376, 6144, 6528,
   6784, 6912, 8192, 9472, 9728, 10240, 10880, 12288, 13568, 14336, 16384, 18432, 19072,
   20480, 21760, 24576, 27264, 28672, 32768]

/-- Bytes reserved for a request of `n` bytes: the least size class that
holds it, or whole 8 KiB pages beyond the classes. -/
def reservedBytes (n : Nat) : Nat :=
  match sizeClasses.find? (n ≤ ·) with
  | some c => c
  | none => (n + 8191) / 8192 * 8192

/-- Room of a copied array of `count` doubles. -/
def copiedRoom (count : Nat) : Nat :=
  if count = 0 then 0 else reservedBytes (8 * count) / 8

/-- A stored snapshot and the room of its joint arrays. -/
structure Slot where
  snapshot : Snapshot
  qRoom : Nat
  dqRoom : Nat
  uRoom : Nat
  deriving Inhabited

namespace Slot

/-- A slot holding a copy of a snapshot. -/
def ofSnapshot (s : Snapshot) : Slot :=
  ⟨s, copiedRoom s.q.size, copiedRoom s.dq.size, copiedRoom s.u.size⟩

/-- The list `old` with its first entries replaced by those of `new`, keeping its length. -/
def overwritePrefix {α : Type} (old new : Array α) : Array α :=
  old.mapIdx fun i x => new.getD i x

/-- The list `old` after values were written into its storage of the given room:
nothing changes when they do not fit. -/
def writeInto (old new : Array Float) (room : Nat) : Array Float :=
  if new.size ≤ room then overwritePrefix old new else old

/-- The slot after snapshot `t` was taken over its storage. -/
def takenOver (slot : Slot) (t : Snapshot) : Slot :=
  let s := slot.snapshot
  { slot with snapshot := { s with
      q := writeInto s.q t.q slot.qRoom, dq := writeInto s.dq t.dq slot.dqRoom,
      u := writeInto s.u t.u slot.uRoom, links := overwritePrefix s.links t.links,
      devices := overwritePrefix s.devices t.devices } }

end Slot

end Multibody.Api
