import Multibody.CommandLine.Flags

/-!
# Commands

A root command with commands under it, named by the first positional word;
the word after a flag that takes a value is that value.  Without a command
the root shows its help, and an unknown word suggests the commands spelled
like it.  A command reads its flags and `--help`, then checks its positional
arguments.  Help texts have a fixed layout.
-/

namespace Multibody.CommandLine

/-- How many positional arguments a command takes. -/
inductive ArgRule where
  /-- any number -/
  | any
  | atMost (n : Nat)
  | exactly (n : Nat)
  deriving Inhabited

/-- The complaint about a number of arguments, if any. -/
def ArgRule.check : ArgRule → List String → Option String
  | .any, _ => none
  | .atMost n, args =>
    if args.length > n then
      some ("accepts at most " ++ toString n ++ " arg(s), received " ++ toString args.length)
    else none
  | .exactly n, args =>
    if args.length != n then
      some ("accepts " ++ toString n ++ " arg(s), received " ++ toString args.length)
    else none

/-- A command: its name, usage pattern, descriptions, argument rule and
flags; whether it runs anything; and the commands under it, by name and
summary. -/
structure Command where
  name : String
  use : String
  short : String
  long : String := ""
  args : ArgRule := .any
  flags : List Flag := []
  runnable : Bool := true
  topics : List (String × String) := []
  deriving Inhabited

/-- A program: its name and summary, the flags all its commands take, and
its commands. -/
structure Program where
  name : String
  short : String
  flags : List Flag
  commands : List Command
  deriving Inhabited

/-- The flag asking for a command's help. -/
def helpFlag (name : String) : Flag :=
  { name := "help", shorthand := some 'h', usage := "help for " ++ name, default := .bool false,
    bare := "true" }

/-- Whether a flag argument takes the next argument as its value, as far as
the flags known at that point tell: an unknown flag is taken to. -/
def takesValue (flags : List Flag) (arg : String) : Bool :=
  if arg.contains '=' then false
  else if arg.startsWith "--" then
    let name := String.ofList (arg.toList.drop 2)
    !(flags.find? (·.name == name)).any (!·.bare.isEmpty)
  else if arg.startsWith "-" && arg.length == 2 then
    let c := (arg.toList.drop 1).headD ' '
    !(flags.find? (·.shorthand == some c)).any (!·.bare.isEmpty)
  else false

/-- The positional words of a command line, skipping flags and their values;
a flag waiting for a value with at most one argument after it ends the
words.  The flag `true` says that the next argument is the value of the
flag before it. -/
def commandWordsFrom (flags : List Flag) : Bool → List String → List String
  | _, [] => []
  | true, _ :: rest => commandWordsFrom flags false rest
  | false, arg :: rest =>
    if arg == "--" then []
    else if takesValue flags arg then
      if rest.length ≥ 2 then commandWordsFrom flags true rest else []
    else if arg.isEmpty || arg.startsWith "-" then commandWordsFrom flags false rest
    else arg :: commandWordsFrom flags false rest

/-- The positional words of a command line, skipping flags and their values. -/
def commandWords (flags : List Flag) (args : List String) : List String :=
  commandWordsFrom flags false args

/-- The command line without the first occurrence of a positional word. -/
def withoutWord (flags : List Flag) (word : String) : List String → List String
  | [] => []
  | arg :: rest =>
    if arg == "--" then arg :: rest
    else if takesValue flags arg then
      match rest with
      | value :: more => arg :: value :: withoutWord flags word more
      | [] => [arg]
    else if !arg.startsWith "-" && arg == word then rest
    else arg :: withoutWord flags word rest

/-- Levenshtein distance of two character lists. -/
def editDistance (a b : List Char) : Nat :=
  let row0 := List.range (b.length + 1)
  let last := a.foldl (fun (prev : List Nat) (x : Char) =>
    let start := prev.headD 0 + 1
    let cells := (b.zip (prev.zip prev.tail)).foldl (fun (acc : List Nat × Nat) (y, diag, up) =>
      let left := acc.2
      let cost := if x == y then 0 else 1
      let v := min (min (up + 1) (left + 1)) (diag + cost)
      (v :: acc.1, v)) ([start], start)
    cells.1.reverse) row0
  last.getLastD 0

namespace Program

/-- The commands in the order of their names. -/
def sorted (p : Program) : List Command := p.commands.mergeSort fun a b => decide (a.name ≤ b.name)

/-- The flags a command reads: its own, its help flag and the program's. -/
def flagsOf (p : Program) (c : Command) : List Flag := c.flags ++ [helpFlag c.name] ++ p.flags

/-- The root's flags: the program's and its help flag. -/
def rootFlags (p : Program) : List Flag := p.flags ++ [helpFlag p.name]

/-- The commands whose names are within two edits of a word, ignoring case,
or start with it. -/
def suggestions (p : Program) (word : String) : List String :=
  let low := word.toLower
  (p.commands.filter fun c =>
    c.runnable || !c.topics.isEmpty).filterMap fun c =>
      if editDistance c.name.toLower.toList low.toList ≤ 2 || c.name.toLower.startsWith low then some c.name
      else none

/-- The complaint about a word that names no command. -/
def unknownCommand (p : Program) (word : String) : String :=
  let hints := p.suggestions word
  "unknown command " ++ Text.quoted word ++ " for " ++ Text.quoted p.name ++
    (if hints.isEmpty then ""
     else "\n\nDid you mean this?\n" ++ String.join (hints.map fun h => "\t" ++ h ++ "\n"))

/-- The command a command line names, with the arguments left for it;
`none` is the root. -/
def find (p : Program) (args : List String) : Except String (Option Command × List String) :=
  match commandWords p.flags args with
  | [] => .ok (none, args)
  | word :: _ =>
    match p.commands.find? (·.name == word) with
    | some c => .ok (some c, withoutWord p.flags word args)
    | none => .error (p.unknownCommand word)

/-- A right-trimmed text. -/
def trimRight (s : String) : String :=
  String.ofList (s.toList.reverse.dropWhile Char.isWhitespace).reverse

/-- The help text of the root. -/
def rootHelp (p : Program) : String :=
  let pad := max 11 (p.commands.foldl (fun w c => max w c.name.length) 0)
  trimRight p.short ++ "\n\n" ++
  "Usage:\n  " ++ p.name ++ " [command]" ++
  "\n\nAvailable Commands:" ++
  String.join (p.sorted.map fun c =>
    "\n  " ++ c.name ++ String.ofList (List.replicate (pad - c.name.length) ' ') ++ " " ++ c.short) ++
  "\n\nFlags:\n" ++ trimRight (flagUsages p.rootFlags) ++
  "\n\nUse \"" ++ p.name ++ " [command] --help\" for more information about a command.\n"

/-- The help text of a command. -/
def commandHelp (p : Program) (c : Command) : String :=
  let path := p.name ++ " " ++ c.name
  let about := trimRight (if c.long.isEmpty then c.short else c.long)
  let useLine := p.name ++ " " ++ c.use ++ (if (c.use.splitOn "[flags]").length > 1 then "" else " [flags]")
  let pad := max 11 (c.topics.foldl (fun w t => max w t.1.length) 0)
  let topics := c.topics.mergeSort fun a b => decide (a.1 ≤ b.1)
  (if about.isEmpty then "" else about ++ "\n\n") ++
  "Usage:" ++
  (if c.runnable then "\n  " ++ useLine else "") ++
  (if topics.isEmpty then "" else "\n  " ++ path ++ " [command]") ++
  (if topics.isEmpty then ""
   else "\n\nAvailable Commands:" ++ String.join (topics.map fun (n, s) =>
     "\n  " ++ n ++ String.ofList (List.replicate (pad - n.length) ' ') ++ " " ++ s)) ++
  "\n\nFlags:\n" ++ trimRight (flagUsages (c.flags ++ [helpFlag c.name])) ++
  "\n\nGlobal Flags:\n" ++ trimRight (flagUsages p.flags) ++
  (if topics.isEmpty then ""
   else "\n\nUse \"" ++ path ++ " [command] --help\" for more information about a command.") ++ "\n"

/-- The help text of the root or a command. -/
def helpOf (p : Program) : Option Command → String
  | none => p.rootHelp
  | some c => p.commandHelp c

end Program

/-- What a command line comes to. -/
inductive Invocation where
  /-- run a command with its flags and positional arguments -/
  | run (c : Command) (parsed : Parsed)
  /-- show a help text -/
  | help (text : String)
  /-- fail with a message; `hint` adds the pointer to the program's help -/
  | failed (message : String) (hint : Bool)
  deriving Inhabited

/-- Reads a command line. -/
def Program.invoke (p : Program) (args : List String) : Invocation :=
  match p.find args with
  | .error e => .failed e true
  | .ok (target, rest) =>
    let flags := match target with
      | some c => p.flagsOf c
      | none => p.rootFlags
    match parseFlags flags rest with
    | .error e => .failed e.message false
    | .ok parsed =>
      match target with
      | none => .help p.rootHelp
      | some c =>
        if parsed.bool "help" || !c.runnable then .help (p.commandHelp c)
        else match c.args.check parsed.args with
          | some e => .failed e false
          | none => .run c parsed

end Multibody.CommandLine
