import Multibody.CommandLine.Command

/-!
# The lab's command line

The commands of the lab and their flags.  The commands that simulate share
one set of flags for the world's settings; the commands that read stored
runs take the run's id; every command takes the data directory, the log
level and the trace output.
-/

namespace Multibody.App

open CommandLine

/-- The flags every command takes. -/
def globalFlags : List Flag :=
  [Flag.text "data" "runs" "data directory",
   Flag.text "log-level" "info" "log level",
   { Flag.text "trace" "" "export trace spans to this file (- for stderr)" with bare := "-" }]

/-- The flags of the commands that simulate a world. -/
def runFlags : List Flag :=
  [Flag.float "dt" 0.001 "timestep",
   Flag.float "time" 10.0 "duration in simulated seconds",
   Flag.float "theta" 0.5 "initial angle",
   Flag.float "theta2" 0.5 "second angle (double_pendulum)",
   Flag.int "links" 5 "links (chain)",
   Flag.int "count" 3 "balls (balls)",
   Flag.bool "hover" "drone rotors start at hover thrust",
   Flag.text "integrator" "rk4" "integrator",
   Flag.text "controller" "none" "controller",
   Flag.float "kp" 10.0 "pid kp",
   Flag.float "ki" 0.1 "pid ki",
   Flag.float "kd" 5.0 "pid kd",
   Flag.float "target" 0.0 "pid target",
   Flag.bool "contacts" "enable contact forces",
   Flag.text "recording" "full" "recording mode: full, tail or off",
   Flag.int "tail" 1000 "frames kept in tail recording mode",
   Flag.bool "realtime" "sync simulated time with wall time",
   Flag.text "metrics-addr" "" "serve prometheus metrics on this address",
   Flag.text "config" "" "config file path (yaml)",
   Flag.text "preset" "" "use preset configuration"]

/-- The flag limiting how many runs go at once. -/
def parallelFlag : Flag := Flag.int "parallel" 0 "runs at once (0 = unlimited)"

/-- The commands, in the order they are registered. -/
def commands : List Command :=
  [{ name := "run", use := "run [world]", short := "run simulation", args := .atMost 1,
     flags := runFlags ++ [Flag.bool "no-save" "do not store the run"] },
   { name := "live", use := "live [world]", short := "run simulation with live visualization",
     args := .atMost 1, flags := runFlags ++ [Flag.float "scale" 8.0 "cells per meter"] },
   { name := "bench", use := "bench [world]", short := "run an ensemble of simulations in parallel",
     args := .atMost 1, flags := runFlags ++ [Flag.int "runs" 8 "number of runs", parallelFlag] },
   { name := "tune", use := "tune [world]", short := "grid search controller gains", args := .atMost 1,
     flags := runFlags ++
       [Flag.floats "kp-range" [5.0, 10.0, 20.0, 40.0] "kp values to try",
        Flag.floats "kd-range" [1.0, 2.0, 5.0, 8.0] "kd values to try",
        Flag.text "metric" "energy" "metric to minimize", parallelFlag] },
   { name := "scenario", use := "scenario [file]", short := "run the steps of a yaml scenario and store each run",
     args := .exactly 1 },
   { name := "list", use := "list", short := "list runs" },
   { name := "plot", use := "plot [run_id]", short := "plot a joint of a stored run", args := .exactly 1,
     flags := [Flag.text "body" "" "body to plot (default: first recorded)",
               Flag.int "joint" (-1) "joint to plot (default: all, up to 6)",
               Flag.text "svg" "" "also write the first plotted series to this svg file"] },
   { name := "analyze", use := "analyze [run_id]", short := "frequency analysis of a stored run",
     args := .exactly 1, flags := [Flag.text "body" "" "body to analyze (default: first recorded)"] },
   { name := "phase", use := "phase [run_id]", short := "phase space plot of a joint", args := .exactly 1,
     flags := [Flag.text "body" "" "body to plot (default: first recorded)",
               Flag.int "joint" 0 "joint to plot",
               Flag.int "poincare" (-1) "sample when this joint crosses zero going up",
               Flag.text "svg" "" "also write the portrait to this svg file"] },
   { name := "export", use := "export [run_id]", short := "export run data to JSON", args := .exactly 1 },
   { name := "presets", use := "presets [world]", short := "list available presets", args := .atMost 1 },
   { name := "config", use := "config [path]", short := "print or save the resolved configuration",
     args := .atMost 1,
     flags := [Flag.text "config" "" "config file path (yaml)", Flag.text "preset" "" "use preset configuration"] },
   { name := "help", use := "help [command]", short := "Help about any command",
     long := "Help provides help for any command in the application.\n" ++
       "Simply type dynsim help [path to command] for full details." },
   { name := "completion", use := "completion", short := "Generate the autocompletion script for the specified shell",
     long := "Generate the autocompletion script for dynsim for the specified shell.\n" ++
       "See each sub-command's help for details on how to use the generated script.\n",
     runnable := false,
     topics := [("bash", "Generate the autocompletion script for bash"),
                ("zsh", "Generate the autocompletion script for zsh"),
                ("fish", "Generate the autocompletion script for fish"),
                ("powershell", "Generate the autocompletion script for powershell")] }]

/-- The lab's command line. -/
def program : Program :=
  { name := "dynsim", short := "articulated body simulation lab", flags := globalFlags, commands }

/-- The flags the `run` command reads. -/
def runCommandFlags : List Flag :=
  match commands.find? (·.name == "run") with
  | some c => program.flagsOf c
  | none => globalFlags

end Multibody.App
