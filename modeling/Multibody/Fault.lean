/-!
# Faults

The ways a computation of the lab can stop short of an answer: reading
through a missing link or body, indexing past the end of a sequence, or an
explicit failure with its own message.  A fault is a value, so the operations
that can meet one return `Except Fault`, and their messages are fixed here.
-/

namespace Multibody

/-- A computation that could not go on. -/
inductive Fault where
  /-- something that was looked up through an absent reference -/
  | missing
  /-- an index outside `[0, length)` -/
  | indexOutOfRange (index : Int) (length : Nat)
  /-- a sequence whose requested length is negative or too large -/
  | badLength
  /-- a slice from `low` to `high` where `high` is below `low` -/
  | sliceBounds (low high : Nat)
  /-- a failure with its own message -/
  | raised (message : String)
  deriving Repr, BEq, Inhabited

/-- The message that reports a fault; a negative index is reported without
the length. -/
def Fault.message : Fault → String
  | .missing => "runtime error: invalid memory address or nil pointer dereference"
  | .indexOutOfRange i n =>
    if i < 0 then "runtime error: index out of range [" ++ toString i ++ "]"
    else "runtime error: index out of range [" ++ toString i ++ "] with length " ++ toString n
  | .badLength => "runtime error: makeslice: len out of range"
  | .sliceBounds lo hi => "runtime error: slice bounds out of range [" ++ toString lo ++ ":" ++ toString hi ++ "]"
  | .raised m => m

/-- Entry `i` of an array, or the index fault. -/
def Fault.at {α : Type} (xs : Array α) (i : Nat) : Except Fault α :=
  if h : i < xs.size then .ok xs[i] else .error (.indexOutOfRange i xs.size)

/-- The array with entry `i` replaced by `v`, or the index fault. -/
def Fault.put {α : Type} (xs : Array α) (i : Nat) (v : α) : Except Fault (Array α) :=
  if h : i < xs.size then .ok (xs.set i v h) else .error (.indexOutOfRange i xs.size)

end Multibody
