import Multibody.Decimal.Read
import Multibody.Decimal.Format
import Multibody.Text.Quoted

/-!
# Flags

A flag is `--name value`, `--name=value` or `-n value`; a boolean flag
alone stands for `true`.  Other arguments are positional, and `--` ends the
flags.  Values are read by kind: booleans, integers with base prefixes,
decimal or hexadecimal doubles, and comma-separated lists that collect over
repeats.  The usage block lists the flags sorted, with aligned help lines.
-/

namespace Multibody.CommandLine

open Decimal

/-- A flag's value. -/
inductive FlagValue where
  | bool (b : Bool)
  | int (i : Int)
  | float (x : Float)
  | text (s : String)
  | floats (xs : List Float)
  deriving Inhabited

namespace FlagValue

/-- The value as its flag spells a default. -/
def render : FlagValue → String
  | .bool b => if b then "true" else "false"
  | .int i => toString i
  | .float x => general x
  | .text s => s
  | .floats xs => "[" ++ ",".intercalate (xs.map (fixed 6)) ++ "]"

/-- The name of the value's kind in a usage line; booleans have none. -/
def kindName : FlagValue → String
  | .bool _ => ""
  | .int _ => "int"
  | .float _ => "float"
  | .text _ => "string"
  | .floats _ => "float64Slice"

/-- Whether a default is the zero value of its kind, which usage lines leave
unsaid. -/
def isZero (v : FlagValue) : Bool :=
  match v with
  | .bool b => !b
  | .int i => i == 0
  | .float _ => v.render == "0"
  | .text s => s.isEmpty
  | .floats _ => v.render == "" || v.render == "0"

end FlagValue

/-- A flag: its name, one-letter form, help line, default, and the value its
bare use stands for (empty when it needs an argument). -/
structure Flag where
  name : String
  shorthand : Option Char := none
  usage : String
  default : FlagValue
  bare : String := ""
  deriving Inhabited

namespace Flag

/-- A boolean flag, off by default. -/
def bool (name usage : String) : Flag := { name, usage, default := .bool false, bare := "true" }

/-- An integer flag. -/
def int (name : String) (d : Int) (usage : String) : Flag := { name, usage, default := .int d }

/-- A double flag. -/
def float (name : String) (d : Float) (usage : String) : Flag := { name, usage, default := .float d }

/-- A text flag. -/
def text (name d usage : String) : Flag := { name, usage, default := .text d }

/-- A flag holding a list of doubles. -/
def floats (name : String) (d : List Float) (usage : String) : Flag := { name, usage, default := .floats d }

/-- The flag as an error message names it. -/
def title (f : Flag) : String :=
  match f.shorthand with
  | some c => "-" ++ c.toString ++ ", --" ++ f.name
  | none => "--" ++ f.name

end Flag

/-- The explanation a failed number reading gives. -/
def numberProblem (reader text : String) (e : ReadError) : String :=
  "strconv." ++ reader ++ ": parsing " ++ Text.quoted text ++ ": " ++
    (match e with
     | .malformed => "invalid syntax"
     | .outOfRange => "value out of range")

/-- Digits of an integer literal in `base`, with separators noted; a digit
out of range is malformed, and a value from 2⁶⁴ on is out of range as soon
as it is reached. -/
def integerDigits (base : Nat) : List Char → Nat → Bool → Except ReadError (Nat × Bool)
  | [], n, seps => .ok (n, seps)
  | c :: rest, n, seps =>
    if c = '_' then integerDigits base rest n true
    else
      let d? : Option Nat :=
        if c.isDigit then some (c.toNat - '0'.toNat)
        else if c.isAlpha then some (c.toLower.toNat - 'a'.toNat + 10)
        else none
      match d? with
      | none => .error .malformed
      | some d =>
        if d ≥ base then .error .malformed
        else
          let next := n * base + d
          if next ≥ Nat.pow 2 64 then .error .outOfRange else integerDigits base rest next seps

/-- Reads an integer literal: an optional sign, then a `0b`, `0o` or `0x`
prefix, a leading `0` for octal, or decimal digits; an underscore may
separate digits.  The value must fit in 64 signed bits. -/
def readInteger (s : String) : Except ReadError Int := do
  let (neg, body) := match s.toList with
    | '+' :: r => (false, r)
    | '-' :: r => (true, r)
    | r => (false, r)
  if body.isEmpty then throw .malformed
  let (base, digits) : Nat × List Char := match body with
    | '0' :: b :: r@(_ :: _) =>
      if b.toLower = 'b' then (2, r)
      else if b.toLower = 'o' then (8, r)
      else if b.toLower = 'x' then (16, r)
      else (8, b :: r)
    | '0' :: r => (8, r)
    | r => (10, r)
  let (n, seps) ← integerDigits base digits 0 false
  if seps && !underscoresOk body then throw .malformed
  if !neg && n ≥ Nat.pow 2 63 then throw .outOfRange
  if neg && n > Nat.pow 2 63 then throw .outOfRange
  return if neg then -(n : Int) else n

/-- Reads a boolean by one of its six spellings each. -/
def readBool (s : String) : Option Bool :=
  if ["1", "t", "T", "true", "TRUE", "True"].contains s then some true
  else if ["0", "f", "F", "false", "FALSE", "False"].contains s then some false
  else none

/-- Reads a flag's value from text; `prior` is the value an earlier use of
the flag set, which a list extends. -/
def Flag.read (f : Flag) (prior : Option FlagValue) (s : String) : Except String FlagValue :=
  match f.default with
  | .bool _ =>
    match readBool s with
    | some b => .ok (.bool b)
    | none => .error ("strconv.ParseBool: parsing " ++ Text.quoted s ++ ": invalid syntax")
  | .int _ =>
    match readInteger s with
    | .ok i => .ok (.int i)
    | .error e => .error (numberProblem "ParseInt" s e)
  | .float _ =>
    match readFloat s with
    | .ok x => .ok (.float x)
    | .error e => .error (numberProblem "ParseFloat" s e)
  | .text _ => .ok (.text s)
  | .floats _ => do
    let xs ← (s.splitOn ",").mapM fun part =>
      match readFloat part with
      | .ok x => Except.ok x
      | .error e => .error (numberProblem "ParseFloat" part e)
    match prior with
    | some (.floats old) => return .floats (old ++ xs)
    | _ => return .floats xs

/-- Why a command line could not be read. -/
inductive FlagError where
  /-- a name such as `---x` or `--=x` -/
  | badSyntax (arg : String)
  | unknown (name : String)
  | unknownShort (c : Char) (group : String)
  | needsArgument (arg : String)
  | needsArgumentShort (c : Char) (group : String)
  /-- a value its flag cannot read, with the reader's explanation -/
  | invalid (value flag cause : String)
  deriving Inhabited

/-- A character in single quotes with escapes. -/
def charQuoted (c : Char) : String :=
  "'" ++ (if c = '\'' then "\\'" else if c = '"' then "\"" else Text.escapeRune c) ++ "'"

/-- The error's message. -/
def FlagError.message : FlagError → String
  | .badSyntax a => "bad flag syntax: " ++ a
  | .unknown n => "unknown flag: --" ++ n
  | .unknownShort c g => "unknown shorthand flag: " ++ charQuoted c ++ " in -" ++ g
  | .needsArgument a => "flag needs an argument: " ++ a
  | .needsArgumentShort c g => "flag needs an argument: " ++ charQuoted c ++ " in -" ++ g
  | .invalid v f cause => "invalid argument " ++ Text.quoted v ++ " for " ++ Text.quoted f ++ " flag: " ++ cause

/-- A command line read against a list of flags: the values of the flags
given, in the order first given, and the positional arguments. -/
structure Parsed where
  flags : List Flag
  given : List (String × FlagValue) := []
  args : List String := []
  deriving Inhabited

namespace Parsed

/-- The flag of a name. -/
def flag? (p : Parsed) (name : String) : Option Flag := p.flags.find? (·.name == name)

/-- Whether a flag was given. -/
def changed (p : Parsed) (name : String) : Bool := (p.given.lookup name).isSome

/-- A flag's value: the one given, else its default. -/
def value (p : Parsed) (name : String) : FlagValue :=
  match p.given.lookup name with
  | some v => v
  | none => ((p.flag? name).map (·.default)).getD default

/-- A boolean flag's value. -/
def bool (p : Parsed) (name : String) : Bool :=
  match p.value name with
  | .bool b => b
  | _ => false

/-- An integer flag's value. -/
def int (p : Parsed) (name : String) : Int :=
  match p.value name with
  | .int i => i
  | _ => 0

/-- A double flag's value. -/
def float (p : Parsed) (name : String) : Float :=
  match p.value name with
  | .float x => x
  | _ => 0.0

/-- A text flag's value. -/
def text (p : Parsed) (name : String) : String :=
  match p.value name with
  | .text s => s
  | _ => ""

/-- A list flag's value. -/
def floats (p : Parsed) (name : String) : List Float :=
  match p.value name with
  | .floats xs => xs
  | _ => []

/-- Sets a flag from text. -/
def assign (p : Parsed) (f : Flag) (s : String) : Except FlagError Parsed :=
  match f.read (p.given.lookup f.name) s with
  | .ok v =>
    .ok { p with given := if p.changed f.name then p.given.map fun (n, old) => (n, if n == f.name then v else old)
                          else p.given ++ [(f.name, v)] }
  | .error cause => .error (.invalid s f.title cause)

/-- Reads a `--name` argument; `rest` are the arguments after it, of which
a value may be taken. -/
def longArg (p : Parsed) (arg : String) (rest : List String) : Except FlagError (Parsed × List String) := do
  let name := String.ofList (arg.toList.drop 2)
  if name.isEmpty || name.startsWith "-" || name.startsWith "=" then throw (.badSyntax arg)
  let (name, inline?) := match name.splitOn "=" with
    | n :: v :: more => (n, some ("=".intercalate (v :: more)))
    | _ => (name, none)
  let some f := p.flag? name | throw (.unknown name)
  match inline? with
  | some v => return (← p.assign f v, rest)
  | none =>
    if !f.bare.isEmpty then return (← p.assign f f.bare, rest)
    else match rest with
      | v :: more => return (← p.assign f v, more)
      | [] => throw (.needsArgument arg)

/-- Reads a group of one-letter flags such as `-h`; the last letter of a
group may take the rest of the group, or the next argument, as its value. -/
def shortGroup (p : Parsed) : List Char → List String → Except FlagError (Parsed × List String)
  | [], rest => .ok (p, rest)
  | c :: more, rest => do
    let group := String.ofList (c :: more)
    let some f := p.flags.find? (·.shorthand == some c) | throw (.unknownShort c group)
    match more with
    | '=' :: v@(_ :: _) => return (← p.assign f (String.ofList v), rest)
    | _ =>
      if !f.bare.isEmpty then shortGroup (← p.assign f f.bare) more rest
      else if !more.isEmpty then return (← p.assign f (String.ofList more), rest)
      else match rest with
        | v :: after => return (← p.assign f v, after)
        | [] => throw (.needsArgumentShort c group)

/-- Reads arguments in order; `fuel` bounds the number of arguments. -/
def readArgs : Nat → Parsed → List String → Except FlagError Parsed
  | 0, p, _ => .ok p
  | _ + 1, p, [] => .ok p
  | fuel + 1, p, arg :: rest =>
    if arg.length ≤ 1 || !arg.startsWith "-" then readArgs fuel { p with args := p.args ++ [arg] } rest
    else if arg == "--" then .ok { p with args := p.args ++ rest }
    else if arg.startsWith "--" then do
      let (p, rest) ← p.longArg arg rest
      readArgs fuel p rest
    else do
      let (p, rest) ← p.shortGroup (arg.toList.drop 1) rest
      readArgs fuel p rest

end Parsed

/-- Reads a command line against a list of flags. -/
def parseFlags (flags : List Flag) (args : List String) : Except FlagError Parsed :=
  Parsed.readArgs (args.length + 1) { flags } args

/-- The usage block of a list of flags: one line per flag, sorted by name. -/
def flagUsages (flags : List Flag) : String :=
  let sorted := flags.mergeSort fun a b => decide (a.name ≤ b.name)
  let heads := sorted.map fun f =>
    let lead := match f.shorthand with
      | some c => "  -" ++ c.toString ++ ", --" ++ f.name
      | none => "      --" ++ f.name
    let kind := f.default.kindName
    let lead := if kind.isEmpty then lead else lead ++ " " ++ kind
    let lead := if f.bare.isEmpty then lead
      else match f.default with
        | .text _ => lead ++ "[=\"" ++ f.bare ++ "\"]"
        | .bool _ => if f.bare == "true" then lead else lead ++ "[=" ++ f.bare ++ "]"
        | _ => lead ++ "[=" ++ f.bare ++ "]"
    let tail := if f.default.isZero then f.usage
      else match f.default with
        | .text s => f.usage ++ " (default " ++ Text.quoted s ++ ")"
        | v => f.usage ++ " (default " ++ v.render ++ ")"
    (lead, tail)
  let width := heads.foldl (fun w (lead, _) => max w (lead.length + 1)) 0
  String.join (heads.map fun (lead, tail) =>
    lead ++ " " ++ String.ofList (List.replicate (width - lead.length) ' ') ++ " " ++ tail ++ "\n")

end Multibody.CommandLine
