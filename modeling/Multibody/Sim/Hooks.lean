/-!
# Dynamics hooks

Tasks that run once per step at a fixed point of it.  Registrations and
removals are queued and take effect together at the next step boundary, so
one pass never sees the collection change.
-/

namespace Multibody.Sim

/-- A pending change to a hook collection. -/
inductive HookChange (τ : Type) where
  | add (id : Nat) (task : τ)
  | remove (id : Nat)

/-- The hooks of one phase, in registration order, and the queued changes. -/
structure HookRegistry (τ : Type) where
  pending : Array (HookChange τ) := #[]
  entries : Array (Nat × τ) := #[]

namespace HookRegistry

variable {τ : Type}

/-- Queues a registration. -/
def add (r : HookRegistry τ) (id : Nat) (task : τ) : HookRegistry τ :=
  { r with pending := r.pending.push (.add id task) }

/-- Queues a removal; removing an unknown id does nothing. -/
def remove (r : HookRegistry τ) (id : Nat) : HookRegistry τ :=
  { r with pending := r.pending.push (.remove id) }

/-- Applies the queued changes in order. -/
def apply (r : HookRegistry τ) : HookRegistry τ :=
  let entries := r.pending.foldl (fun es ch =>
    match ch with
    | .add id t => es.push (id, t)
    | .remove id =>
      match es.findIdx? (·.1 == id) with
      | some i => es.eraseIdxIfInBounds i
      | none => es) r.entries
  { pending := #[], entries := entries }

/-- Drops every hook and queued change. -/
def clear (_r : HookRegistry τ) : HookRegistry τ := {}

end HookRegistry

/-- The three points of a step where hooks run: before the controllers'
efforts reach the engine, just before the engine, and after it. -/
inductive Phase where
  | pre
  | mid
  | post
  deriving BEq, Inhabited, Repr

end Multibody.Sim
