import Multibody.Decimal.Format

/-!
# Failures

The errors a simulation reports as values, as opposed to faults that stop a
computation.  A failure is built from named conditions (`Condition`), plain
notes, and the ways a message wraps another: a lead and a tail around one
failure, two failures around a separator, a list of failures one per line,
and a failure placed at a frame of a run.

A failure's message is the concatenation of its parts.  A failure *is* a
condition when the condition occurs anywhere in the failures it wraps, which
is how callers classify it.
-/

namespace Multibody

/-- The named conditions of the simulator. -/
inductive Condition where
  | alreadyRunning
  | notRunning
  | noWorld
  | noBackend
  | setupFailed
  | cloneFailed
  | initializeFailed
  | controllerInitFailed
  | controllerDone
  | hookFailed
  | stepFailed
  | invalidState
  | invalidTimeStep
  deriving Repr, BEq, DecidableEq, Inhabited

namespace Condition

/-- The message of a condition. -/
def message : Condition → String
  | .alreadyRunning => "dynamo: simulation already running"
  | .notRunning => "dynamo: simulation not running"
  | .noWorld => "dynamo: no world attached"
  | .noBackend => "dynamo: no dynamics backend"
  | .setupFailed => "dynamo: simulation setup failed"
  | .cloneFailed => "dynamo: body clone failed"
  | .initializeFailed => "dynamo: backend initialization failed"
  | .controllerInitFailed => "dynamo: controller initialization failed"
  | .controllerDone => "dynamo: controller finished"
  | .hookFailed => "dynamo: dynamics hook failed"
  | .stepFailed => "dynamo: simulation step failed"
  | .invalidState => "dynamo: invalid state (NaN or Inf detected)"
  | .invalidTimeStep => "dynamo: time step must be positive"

/-- The short name of a condition. -/
def kindName : Condition → String
  | .alreadyRunning => "already_running"
  | .notRunning => "not_running"
  | .noWorld => "no_world"
  | .noBackend => "no_backend"
  | .setupFailed => "setup_failed"
  | .cloneFailed => "clone_failed"
  | .initializeFailed => "initialize_failed"
  | .controllerInitFailed => "controller_init_failed"
  | .controllerDone => "controller_done"
  | .hookFailed => "hook_failed"
  | .stepFailed => "step_failed"
  | .invalidState => "invalid_state"
  | .invalidTimeStep => "invalid_time_step"

/-- The conditions by which a run's failure is classified, in order. -/
def reported : List Condition :=
  [.alreadyRunning, .notRunning, .noWorld, .noBackend, .setupFailed, .cloneFailed,
   .initializeFailed, .controllerInitFailed, .hookFailed, .stepFailed, .invalidTimeStep]

end Condition

/-- An error reported as a value. -/
inductive Failure where
  /-- a named condition -/
  | condition (c : Condition)
  /-- an error with its own text, wrapping nothing -/
  | note (text : String)
  /-- the lead text, the wrapped failure's message, and the tail text -/
  | around (lead : String) (inner : Failure) (tail : String)
  /-- two wrapped failures with a separator between them -/
  | pair (a : Failure) (sep : String) (b : Failure)
  /-- several failures, one message per line -/
  | joined (items : List Failure)
  /-- a failure at a frame and time of a run, optionally of one body -/
  | atFrame (frame : Int) (time : Float) (body : String) (inner : Failure)
  deriving Inhabited

namespace Failure

/-- Two failures joined as `a: b`, both wrapped. -/
def chain (a b : Failure) : Failure := .pair a ": " b

mutual
/-- The message of a failure. -/
def message : Failure → String
  | .condition c => c.message
  | .note t => t
  | .around l f t => l ++ message f ++ t
  | .pair a s b => message a ++ s ++ message b
  | .joined fs => joinedMessage fs
  | .atFrame frame time body f =>
    "frame " ++ toString frame ++ " (t=" ++ Decimal.fixed 4 time ++ ")" ++
      (if body.isEmpty then "" else " body " ++ body) ++ ": " ++ message f

/-- Messages one per line. -/
def joinedMessage : List Failure → String
  | [] => ""
  | [f] => message f
  | f :: fs => message f ++ "\n" ++ joinedMessage fs
end

mutual
/-- Whether the condition occurs in the failure. -/
def has (c : Condition) : Failure → Bool
  | .condition c' => c == c'
  | .note _ => false
  | .around _ f _ => has c f
  | .pair a _ b => has c a || has c b
  | .joined fs => hasAny c fs
  | .atFrame _ _ _ f => has c f

/-- Whether the condition occurs in one of the failures. -/
def hasAny (c : Condition) : List Failure → Bool
  | [] => false
  | f :: fs => has c f || hasAny c fs
end

/-- The frame of the outermost frame-placed failure, if any. -/
def frame? : Failure → Option Int
  | .atFrame frame _ _ _ => some frame
  | .around _ f _ => frame? f
  | _ => none

/-- The combined failure of a list: none for an empty list. -/
def join? (fs : List Failure) : Option Failure :=
  match fs with
  | [] => none
  | _ => some (.joined fs)

end Failure

end Multibody
