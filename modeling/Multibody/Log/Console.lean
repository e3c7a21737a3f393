import Multibody.Decimal.Format
import Multibody.Text.Duration
import Multibody.Text.Quoted

/-!
# Console log records

The lab logs records at seven levels, from `debug` to `fatal`.  A logger has
a minimum level and drops records below it; a level name that cannot be read
leaves the minimum at `info`.  Names are read as written or in lower case:
`debug`, `info` (also the empty name), `warn`, `error`, `dpanic`, `panic`,
`fatal`.

A record on a console is one line: the level in capitals, the logger's name
when it has one, the message, and the fields as a JSON object, separated by
two spaces.  Field strings escape only the quote, the backslash and control
characters; doubles are written in positional form.
-/

namespace Multibody.Log

/-- The levels of a record, lowest first. -/
inductive Level where
  | debug
  | info
  | warn
  | error
  | dpanic
  | panic
  | fatal
  deriving BEq, Inhabited, Repr

namespace Level

/-- Every level, lowest first. -/
def all : List Level := [.debug, .info, .warn, .error, .dpanic, .panic, .fatal]

/-- The rank of a level. -/
def rank : Level → Nat
  | .debug => 0
  | .info => 1
  | .warn => 2
  | .error => 3
  | .dpanic => 4
  | .panic => 5
  | .fatal => 6

/-- The lower-case name. -/
def name : Level → String
  | .debug => "debug"
  | .info => "info"
  | .warn => "warn"
  | .error => "error"
  | .dpanic => "dpanic"
  | .panic => "panic"
  | .fatal => "fatal"

/-- The name in capitals, as console lines show it. -/
def capital (l : Level) : String := l.name.toUpper

/-- A level from its name as written, lower or upper case. -/
def spelled? (s : String) : Option Level :=
  if s == "" then some .info
  else all.find? fun l => s == l.name || s == l.capital

/-- A level from its name, trying the lower-cased name too. -/
def parse? (s : String) : Option Level := (spelled? s).orElse fun _ => spelled? s.toLower

/-- The level of a name, `info` when it names none. -/
def orInfo (s : String) : Level := (parse? s).getD .info

/-- Whether a logger at minimum `min` keeps a record at `l`. -/
def enables (min l : Level) : Bool := min.rank ≤ l.rank

end Level

/-- A field value. -/
inductive Value where
  | str (s : String)
  | int (i : Int)
  | float (x : Float)
  | bool (b : Bool)
  /-- a duration in nanoseconds -/
  | duration (ns : Int)

/-- A string escaped for a field: the quote, the backslash and control
characters. -/
def escapeField (s : String) : String :=
  s.foldl (fun acc c =>
    if c == '"' then acc ++ "\\\""
    else if c == '\\' then acc ++ "\\\\"
    else if c == '\n' then acc ++ "\\n"
    else if c == '\r' then acc ++ "\\r"
    else if c == '\t' then acc ++ "\\t"
    else if c.toNat < 0x20 then acc ++ "\\u00" ++ Text.hexDigits c.toNat 2
    else acc.push c) ""

/-- A double as a field writes it. -/
def floatField (x : Float) : String :=
  if x.isNaN then "\"NaN\""
  else if Decimal.isInf x then (if x > 0 then "\"+Inf\"" else "\"-Inf\"")
  else Decimal.positional x

/-- The JSON text of a field value. -/
def Value.text : Value → String
  | .str s => "\"" ++ escapeField s ++ "\""
  | .int i => toString i
  | .float x => floatField x
  | .bool b => if b then "true" else "false"
  | .duration ns => "\"" ++ Text.durationText ns ++ "\""

/-- A record: level, logger name, message and fields. -/
structure Record where
  level : Level
  name : String := ""
  message : String
  fields : List (String × Value) := []

/-- The console line of a record, without its time. -/
def Record.line (r : Record) : String :=
  let fields := if r.fields.isEmpty then []
    else ["\x7b" ++ ", ".intercalate (r.fields.map fun (k, v) => "\"" ++ escapeField k ++ "\": " ++ v.text) ++ "\x7d"]
  "  ".intercalate ([r.level.capital] ++ (if r.name == "" then [] else [r.name]) ++ [r.message] ++ fields)

/-- A logger writing console lines: its minimum level and what it wrote. -/
structure Logger where
  min : Level := .info
  lines : Array String := #[]
  deriving Inhabited

/-- Writes a record if its level is enabled. -/
def Logger.log (lg : Logger) (r : Record) : Logger :=
  if lg.min.enables r.level then { lg with lines := lg.lines.push r.line } else lg

end Multibody.Log
