import Multibody.App.Execute

/-!
# The command line

Runs one command line of the lab over the working directory.  The files the
arguments name are read in first; the command then runs on them, and every
file and directory it created or changed is written back.  The output goes
to standard output, error lines to standard error, and the exit status is
0 on success, 1 after an error and 2 after a breakdown.
-/

open Multibody

/-- The paths an argument may name: itself, or the value of a
`--name=value` flag. -/
def argumentPaths (arg : String) : List String :=
  match arg.splitOn "=" with
  | flag :: value :: _ => if flag.startsWith "--" then [value] else [arg]
  | _ => [arg]

/-- The working directory's files that the arguments name. -/
def readNamedFiles (args : List String) : IO Store.Files := do
  let mut fs : Store.Files := {}
  for path in args.flatMap argumentPaths do
    if path.isEmpty || path.startsWith "-" then continue
    match ← (IO.FS.readFile path).toBaseIO with
    | .ok text =>
      let seeded := (fs.makeDirs (Store.dirPath path)).toOption.getD fs
      fs := (seeded.writeFile path text).toOption.getD fs
    | .error _ => pure ()
  return fs

/-- Writes back what a command created or changed. -/
def writeChanges (before after : Store.Files) : IO Unit := do
  for (path, entry) in after.entries do
    if before.entries.lookup path == some entry then continue
    match entry with
    | .dir => IO.FS.createDirAll path
    | .file text => IO.FS.writeFile path text

/-- Runs the command line given by the arguments. -/
def main (args : List String) : IO UInt32 := do
  let files ← readNamedFiles args
  let (outcome, disk) := App.execute { files } args
  writeChanges files disk.files
  IO.print outcome.out
  for line in outcome.errors do
    IO.eprintln line
  if let some text := outcome.breakdown then
    IO.eprintln ("panic: " ++ text)
  return UInt32.ofNat outcome.exit
