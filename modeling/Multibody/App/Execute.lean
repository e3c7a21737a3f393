import Multibody.App.Experiments
import Multibody.App.Inspection
import Multibody.App.Program

/-!
# Running a command line

A command line is read against the program's commands and flags; it then
shows a help text, fails before any command runs, or runs a command in a
shell over the working directory.  The outcome is the exit status, what was
printed, the error lines, and the text of a breakdown.

An error prints `Error: ` and its message, one line per line of the message,
and a word no command has also points to the program's help.  A breakdown
ends the program with status 2 and prints nothing of its own on the error
lines.  `help` shows the help of the command its words name; when they name
none it prints nothing on the output.
-/

namespace Multibody.App

open ShellM CommandLine

/-- What running a command line came to. -/
structure Outcome where
  /-- zero on success, one after an error, two after a breakdown -/
  exit : Nat := 0
  out : String := ""
  /-- the error lines -/
  errors : List String := []
  breakdown : Option String := none
  deriving Inhabited

/-- The error lines of a failure. -/
def errorLines (message : String) (hint : Bool) : List String :=
  let lines := ("Error: " ++ message).splitOn "\n"
  if hint then lines ++ ["Run '" ++ program.name ++ " --help' for usage."] else lines

/-- The `help` command: the help of the command the words name. -/
def helpCommand (p : Parsed) : ShellM Unit :=
  match program.find p.args with
  | .ok (target, _) => say (program.helpOf target)
  | .error _ => pure ()

/-- The live view draws on a terminal, which a shell does not have. -/
def liveCommand : ShellM Unit :=
  fail "could not open a new TTY: open /dev/tty: no such device or address"

/-- The steps of a command. -/
def Command.steps (c : Command) (p : Parsed) : ShellM Unit :=
  match c.name with
  | "run" => runCommand p
  | "bench" => benchCommand p
  | "tune" => tuneCommand p
  | "scenario" => scenarioCommand p
  | "list" => listCommand p
  | "plot" => plotCommand p
  | "analyze" => analyzeCommand p
  | "phase" => phaseCommand p
  | "export" => exportCommand p
  | "presets" => presetsCommand p
  | "config" => configCommand p
  | "help" => helpCommand p
  | _ => liveCommand

/-- Runs a command line over the working directory and its stored runs. -/
def execute (disk : Store.Disk) (args : List String) : Outcome × Store.Disk :=
  match program.invoke args with
  | .help text => ({ out := text }, disk)
  | .failed message hint => ({ exit := 1, errors := errorLines message hint }, disk)
  | .run c p =>
    let (r, sh) := ((Command.steps c p).run).run { disk }
    match r with
    | .ok () => ({ out := sh.out }, sh.disk)
    | .error (.error message) => ({ exit := 1, out := sh.out, errors := errorLines message false }, sh.disk)
    | .error (.breakdown text) => ({ exit := 2, out := sh.out, breakdown := some text }, sh.disk)

end Multibody.App
