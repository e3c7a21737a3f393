/-!
# A tree of files

Runs are kept as files: a directory per run holding its metadata and one
track per body.  `Files` is that tree as data: every directory and file under
its clean path, the working directory `.` always present.  The operations
fail the way the system calls do, with the operation, the path as given and
the reason: a missing parent is `no such file or directory`, a file where a
directory is needed is `not a directory`, and a directory where a file is
needed is `is a directory`.

Paths are cleaned lexically before lookup: empty and `.` elements vanish and
`..` removes the element before it.
-/

namespace Multibody.Store

/-- What a path names: a file with its text, or a directory. -/
inductive Entry where
  | file (text : String)
  | dir
  deriving Inhabited, BEq

/-- The elements of a clean path, with `..` applied. -/
def cleanElements (rooted : Bool) (parts : List String) : List String :=
  (parts.foldl (fun (acc : List String) p =>
    if p == "" || p == "." then acc
    else if p == ".." then
      match acc with
      | q :: rest => if q == ".." then p :: acc else rest
      | [] => if rooted then [] else [p]
    else p :: acc) []).reverse

/-- The shortest path naming the same place: `.` for nothing, a leading `/`
kept. -/
def cleanPath (path : String) : String :=
  let rooted := path.startsWith "/"
  let body := "/".intercalate (cleanElements rooted (path.splitOn "/"))
  if rooted then "/" ++ body
  else if body == "" then "." else body

/-- Paths joined by `/` and cleaned; empty elements are skipped. -/
def joinPath (parts : List String) : String :=
  let parts := parts.filter (· != "")
  if parts.isEmpty then "" else cleanPath ("/".intercalate parts)

/-- The directory part of a path: all but the last element, cleaned. -/
def dirPath (path : String) : String :=
  match (path.splitOn "/").dropLast with
  | [] => "."
  | parts => cleanPath ("/".intercalate parts ++ "/")

/-- The last element of a clean path. -/
def baseName (path : String) : String := ((path.splitOn "/").getLast?).getD path

/-- Files and directories by clean path. -/
structure Files where
  entries : List (String × Entry) := []
  deriving Inhabited

namespace Files

/-- What a clean path names; the working and root directories always exist. -/
def entry? (fs : Files) (clean : String) : Option Entry :=
  if clean == "." || clean == "/" then some .dir else fs.entries.lookup clean

/-- The clean proper ancestors of a clean path, outermost first. -/
def ancestors (clean : String) : List String :=
  let rooted := clean.startsWith "/"
  let parts := cleanElements rooted (clean.splitOn "/")
  let pre := (List.range parts.length).map fun n => "/".intercalate (parts.take n)
  (pre.drop 1).map fun p => if rooted then "/" ++ p else p

/-- Why the parent directories of a path cannot be walked, if they cannot. -/
def walkError? (fs : Files) (clean : String) : Option String :=
  (ancestors clean).findSome? fun a =>
    match fs.entry? a with
    | none => some "no such file or directory"
    | some (.file _) => some "not a directory"
    | some .dir => none

/-- What a path names, or why it names nothing. -/
def stat (fs : Files) (path : String) : Except String Entry :=
  let clean := cleanPath path
  match fs.walkError? clean with
  | some e => .error e
  | none => match fs.entry? clean with
    | some e => .ok e
    | none => .error "no such file or directory"

/-- The text of a file. -/
def readFile (fs : Files) (path : String) : Except String String :=
  match fs.stat path with
  | .ok (.file t) => .ok t
  | .ok .dir => .error ("read " ++ path ++ ": is a directory")
  | .error e => .error ("open " ++ path ++ ": " ++ e)

/-- Puts an entry at a clean path, replacing what was there. -/
def put (fs : Files) (clean : String) (e : Entry) : Files :=
  if fs.entries.any (·.1 == clean) then
    ⟨fs.entries.map fun (k, x) => if k == clean then (k, e) else (k, x)⟩
  else ⟨fs.entries ++ [(clean, e)]⟩

/-- Creates or truncates a file and writes its text; the parent directory
must exist. -/
def writeFile (fs : Files) (path : String) (text : String) : Except String Files :=
  let clean := cleanPath path
  match fs.walkError? clean with
  | some e => .error ("open " ++ path ++ ": " ++ e)
  | none => match fs.entry? clean with
    | some .dir => .error ("open " ++ path ++ ": is a directory")
    | _ => .ok (fs.put clean (.file text))

/-- Creates a directory and the missing directories above it; an existing
directory is fine, a file on the way is not. -/
def makeDirs (fs : Files) (path : String) : Except String Files :=
  let clean := cleanPath path
  ((ancestors clean) ++ [clean]).foldlM (fun fs a =>
    match fs.entry? a with
    | some .dir => .ok fs
    | some (.file _) => .error ("mkdir " ++ a ++ ": not a directory")
    | none => .ok (fs.put a .dir)) fs

/-- The names in a directory, sorted, each with what it names. -/
def readDir (fs : Files) (path : String) : Except String (List (String × Entry)) :=
  match fs.stat path with
  | .error e => .error ("open " ++ path ++ ": " ++ e)
  | .ok (.file _) => .error ("readdirent " ++ path ++ ": not a directory")
  | .ok .dir =>
    let clean := cleanPath path
    let children := fs.entries.filter fun (k, _) => k != clean && dirPath k == clean
    .ok ((children.map fun (k, e) => (baseName k, e)).mergeSort fun a b => decide (a.1 ≤ b.1))

/-- Removes a file or an empty directory. -/
def remove (fs : Files) (path : String) : Except String Files :=
  let clean := cleanPath path
  match fs.stat path with
  | .error e => .error ("remove " ++ path ++ ": " ++ e)
  | .ok .dir =>
    if fs.entries.any (fun (k, _) => k != clean && dirPath k == clean) then
      .error ("remove " ++ path ++ ": directory not empty")
    else .ok ⟨fs.entries.filter (·.1 != clean)⟩
  | .ok (.file _) => .ok ⟨fs.entries.filter (·.1 != clean)⟩

/-- Whether a path names something. -/
def exists? (fs : Files) (path : String) : Bool := (fs.stat path).toBool

end Files

end Multibody.Store
