import Multibody.App.Session
import Multibody.App.Tracing
import Multibody.Store.Runs

/-!
# The world a command runs in

A command reads and writes the files of its working directory, stores runs
there, and prints to its output stream.  It ends normally, with an error
message, or by breaking down with the text of the breakdown; what it did
before stays done either way.

Tracing spans a command: it is set up before the command's sessions are
built and ended after the command, however it ends, so the spans of a run
that failed are written too.
-/

namespace Multibody.App

/-- What a command sees and changes: the working directory's files and the
runs stored so far, what it printed, the tracing in force and the spans
recorded under it. -/
structure Shell where
  disk : Store.Disk := {}
  out : String := ""
  tracing : Option Tracing := none
  spans : Array Observe.Span := #[]
  deriving Inhabited

/-- How a command ends early. -/
inductive Halt where
  | error (message : String)
  /-- a breakdown, with its text -/
  | breakdown (text : String)
  deriving Inhabited

/-- A command's steps. -/
abbrev ShellM := ExceptT Halt (StateM Shell)

namespace ShellM

/-- Prints text on the output stream. -/
def say (text : String) : ShellM Unit := modify fun sh => { sh with out := sh.out ++ text }

/-- Ends the command with an error. -/
def fail {α : Type} (message : String) : ShellM α := throw (.error message)

/-- The value of a computation that may fail with a message. -/
def orFail {α : Type} (r : Except String α) : ShellM α :=
  match r with
  | .ok a => pure a
  | .error e => fail e

/-- The working directory's files. -/
def files : ShellM Store.Files := return (← get).disk.files

/-- Changes the working directory's files. -/
def setFiles (fs : Store.Files) : ShellM Unit := modify fun sh => { sh with disk := { sh.disk with files := fs } }

/-- The tracer a session reports to under the tracing in force. -/
def tracer : ShellM (Option Observe.Tracer) := return (← get).tracing.map Tracing.tracer

/-- Keeps the spans a session recorded. -/
def collectSpans {κ ω : Type} (s : Session κ ω) : ShellM Unit :=
  match s.rig.sim.tracer with
  | some t => modify fun sh => { sh with spans := sh.spans ++ t.spans }
  | none => pure ()

/-- Runs a command's body under tracing set up from its settings, and ends
the tracing however the body ends. -/
def traced {α : Type} (t : TracingSettings) (body : ShellM α) : ShellM α := do
  let fs ← files
  let (tracing?, fs, _) ← orFail (Tracing.start t fs {})
  setFiles fs
  modify fun sh => { sh with tracing := tracing?, spans := #[] }
  let finish : ShellM Unit := do
    let sh ← get
    if let some tr := sh.tracing then
      let (_, fs, _, _) := tr.finish sh.spans.toList sh.disk.files "" {}
      setFiles fs
    modify fun sh => { sh with tracing := none, spans := #[] }
  tryFinally body finish

end ShellM

end Multibody.App
