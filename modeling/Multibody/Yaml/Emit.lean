import Multibody.Yaml.Resolve
import Multibody.Decimal.Format

/-!
# Writing YAML

Documents are written in block style, nested collections indented to the
next step, entries as `- ` lines, empty collections as `{}` and `[]`.  A
string is plain when it reads back the same, otherwise single- or
double-quoted with escapes, or a literal block when it spans lines; keys
longer than 128 bytes are explicit `? ` keys.
-/

namespace Multibody.Yaml

/-- A document to write: scalars with the style their writer asks for,
sequences, and mappings with their keys in order. -/
inductive Piece where
  | scalar (text : String) (style : Style)
  | seq (items : List Piece)
  | map (pairs : List (Piece × Piece))
  deriving Inhabited

/-- Characters that may stand in YAML text unescaped. -/
def printable (c : Char) : Bool :=
  let n := c.toNat
  n == 0x0A || (0x20 ≤ n && n ≤ 0x7E) || (0xA0 ≤ n && n ≤ 0xD7FF) ||
  (0xE000 ≤ n && n ≤ 0xFFFD && n != 0xFEFF)

/-- What the text of a scalar allows. -/
structure Analysis where
  multiline : Bool
  plain : Bool
  single : Bool
  block : Bool

/-- Indicators that may not start a plain scalar. -/
def leadIndicators : List Char :=
  ['#', ',', '[', ']', Char.ofNat 0x7B, Char.ofNat 0x7D, '&', '*', '!', '|', '>', '\'', '"', '%', '@',
   Char.ofNat 0x60]

/-- The running flags of `analyze`. -/
structure ScanFlags where
  indicators : Bool := false
  breaks : Bool := false
  special : Bool := false
  tabs : Bool := false
  leadingSpace : Bool := false
  leadingBreak : Bool := false
  trailingSpace : Bool := false
  trailingBreak : Bool := false
  breakSpace : Bool := false
  spaceBreak : Bool := false
  afterBlank : Bool := true
  prevSpace : Bool := false
  prevBreak : Bool := false

/-- Which styles a text can be written in outside flow collections. -/
def analyze (s : String) : Analysis :=
  let cs := s.toList.toArray
  let n := cs.size
  if n == 0 then { multiline := false, plain := true, single := true, block := false }
  else
    let marker := n ≥ 3 && ((cs[0]! == '-' && cs[1]! == '-' && cs[2]! == '-') ||
      (cs[0]! == '.' && cs[1]! == '.' && cs[2]! == '.'))
    let f := (List.range n).foldl (fun (f : ScanFlags) i =>
      let c := cs[i]!
      let followedByBlank := i + 1 ≥ n || isBlank cs[i + 1]!
      let ind :=
        if i == 0 then
          leadIndicators.contains c || ((c == '?' || c == ':') && followedByBlank) ||
            (c == '-' && followedByBlank)
        else (c == ':' && followedByBlank) || (c == '#' && f.afterBlank)
      let f := { f with indicators := f.indicators || ind }
      let f := if c == '\t' then { f with tabs := true }
        else if !printable c then { f with special := true } else f
      let f :=
        if c == ' ' then
          { f with leadingSpace := f.leadingSpace || i == 0, trailingSpace := f.trailingSpace || i + 1 == n,
                   breakSpace := f.breakSpace || f.prevBreak, prevSpace := true, prevBreak := false }
        else if isBreak c then
          { f with breaks := true, leadingBreak := f.leadingBreak || i == 0,
                   trailingBreak := f.trailingBreak || i + 1 == n,
                   spaceBreak := f.spaceBreak || f.prevSpace, prevSpace := false, prevBreak := true }
        else { f with prevSpace := false, prevBreak := false }
      { f with afterBlank := isBlankEnd c }) { indicators := marker }
    let edges := f.leadingSpace || f.leadingBreak || f.trailingSpace || f.trailingBreak
    let mixed := f.spaceBreak || f.tabs || f.special
    { multiline := f.breaks,
      plain := !(edges || f.breakSpace || mixed || f.breaks || f.indicators),
      single := !(f.breakSpace || mixed),
      block := !(f.trailingSpace || f.spaceBreak || f.special) }

/-- Upper-case hexadecimal digits of `n`, `width` of them. -/
def hexUpper (n width : Nat) : String :=
  let ds := (Nat.toDigits 16 n).map Char.toUpper
  String.ofList (List.replicate (width - ds.length) '0' ++ ds)

/-- A character inside double quotes. -/
def escapeDouble (c : Char) : String :=
  let n := c.toNat
  if printable c && !isBreak c && c != '"' && c != '\\' then c.toString
  else match n with
    | 0 => "\\0"
    | 7 => "\\a"
    | 8 => "\\b"
    | 9 => "\\t"
    | 10 => "\\n"
    | 11 => "\\v"
    | 12 => "\\f"
    | 13 => "\\r"
    | 27 => "\\e"
    | 0x22 => "\\\""
    | 0x5C => "\\\\"
    | 0x85 => "\\N"
    | 0xA0 => "\\_"
    | 0x2028 => "\\L"
    | 0x2029 => "\\P"
    | _ =>
      if n ≤ 0xFF then "\\x" ++ hexUpper n 2
      else if n ≤ 0xFFFF then "\\u" ++ hexUpper n 4
      else "\\U" ++ hexUpper n 8

/-- The chomping indicator of a literal block: `-` without a final break,
`+` with more than one, none with exactly one. -/
def chompHint (cs : List Char) : String :=
  match cs.reverse with
  | [] => "-"
  | c :: rest =>
    if !isBreak c then "-"
    else match rest with
      | [] => "+"
      | d :: _ => if isBreak d then "+" else ""

/-- The writer's output and position: the column, whether the last thing
written was blank, and whether only indentation stands on the line. -/
structure Pen where
  out : String := ""
  column : Nat := 0
  whitespace : Bool := true
  indention : Bool := true

namespace Pen

/-- Writes text on the current line. -/
def put (p : Pen) (s : String) : Pen := { p with out := p.out ++ s, column := p.column + s.length }

/-- Ends the line. -/
def newline (p : Pen) : Pen := { p with out := p.out.push '\n', column := 0, indention := true }

/-- Moves to column `indent`, on a new line unless only indentation stands
before it. -/
def indent (p : Pen) (ind : Nat) : Pen :=
  let p := if !p.indention || p.column > ind || (p.column == ind && !p.whitespace) then p.newline else p
  let p := p.put (String.ofList (List.replicate (ind - p.column) ' '))
  { p with whitespace := true }

/-- Writes an indicator, after a space when one is needed. -/
def indicator (p : Pen) (s : String) (needBlank isBlank isIndention : Bool) : Pen :=
  let p := if needBlank && !p.whitespace then p.put " " else p
  let p := p.put s
  { p with whitespace := isBlank, indention := p.indention && isIndention }

/-- Writes a literal block scalar whose lines are indented to `ind`. -/
def literal (p : Pen) (text : String) (ind best : Nat) : Pen :=
  let cs := text.toList
  let p := p.indicator "|" true false false
  let p := match cs with
    | c :: _ => if c == ' ' || isBreak c then p.indicator (toString best) false false false else p
    | [] => p
  let chomp := chompHint cs
  let p := if chomp.isEmpty then p else p.indicator chomp false false false
  let p := { p.newline with whitespace := true }
  let (p, _) := cs.foldl (fun (p, breaks) c =>
    if c == '\n' then (p.newline, true)
    else if isBreak c then ({ p with out := p.out.push c, column := 0, indention := true }, true)
    else
      let p := if breaks then p.indent ind else p
      ({ p.put c.toString with indention := false }, false)) (p, true)
  p

/-- Writes a scalar in the style its text allows: the requested one when
possible, else single or double quotes.  `simpleKey` holds for a mapping key;
`ind` is the indentation of a literal block's lines. -/
def scalar (p : Pen) (best : Nat) (text : String) (requested : Style) (simpleKey : Bool) (ind : Nat) : Pen :=
  let a := analyze text
  let style := if simpleKey && a.multiline then Style.double else requested
  let style := if style == .plain && (!a.plain || (text.isEmpty && simpleKey)) then .single else style
  let style := if style == .single && !a.single then .double else style
  let style := if style == .literal && (!a.block || simpleKey) then .double else style
  match style with
  | .plain =>
    let p := if !text.isEmpty && !p.whitespace then p.put " " else p
    { p.put text with whitespace := false, indention := false }
  | .single =>
    let p := p.indicator "'" true false false
    let p := p.put (String.join (text.toList.map fun c => if c == '\'' then "''" else c.toString))
    p.indicator "'" false false false
  | .double =>
    let p := p.indicator "\"" true false false
    let p := p.put (String.join (text.toList.map escapeDouble))
    p.indicator "\"" false false false
  | .literal => p.literal text ind best

end Pen

/-- The indentation of a node inside one indented to `parent` (negative at
the root): two past a sequence's `- `, else the next multiple of `best`.  A
root collection starts at column 0; a root scalar's lines at `best`. -/
def nestedIndent (best : Nat) (parent : Int) (inItem scalar : Bool) : Nat :=
  if parent < 0 then (if scalar then best else 0)
  else if inItem then parent.toNat + 2
  else best * ((parent.toNat + best) / best)

/-- Whether a key can be written on its value's line. -/
def simpleKey : Piece → Bool
  | .scalar t _ => !(analyze t).multiline && t.utf8ByteSize ≤ 128
  | .seq [] => true
  | .map [] => true
  | _ => false

mutual

/-- Writes a node inside one indented to `parent`. -/
def Piece.write (best : Nat) (parent : Int) (inItem key : Bool) : Piece → Pen → Pen
  | .scalar text style, p => p.scalar best text style key (nestedIndent best parent inItem true)
  | .seq [], p => (p.indicator "[" true true false).indicator "]" false false false
  | .map [], p =>
    (p.indicator (Char.ofNat 0x7B).toString true true false).indicator (Char.ofNat 0x7D).toString false false false
  | .seq (i :: is), p => writeItems best (nestedIndent best parent inItem false) (i :: is) p
  | .map (kv :: kvs), p => writePairs best (nestedIndent best parent inItem false) (kv :: kvs) p

/-- Writes the entries of a block sequence. -/
def writeItems (best ind : Nat) : List Piece → Pen → Pen
  | [], p => p
  | x :: xs, p =>
    let p := (p.indent ind).indicator "-" true false true
    writeItems best ind xs (x.write best ind true false p)

/-- Writes the pairs of a block mapping. -/
def writePairs (best ind : Nat) : List (Piece × Piece) → Pen → Pen
  | [], p => p
  | (k, v) :: rest, p =>
    let p := p.indent ind
    let p :=
      if simpleKey k then
        let p := k.write best ind false true p
        v.write best ind false false (p.indicator ":" false false false)
      else
        let p := k.write best ind false false (p.indicator "?" true false true)
        v.write best ind false false ((p.indent ind).indicator ":" true false true)
    writePairs best ind rest p

end

/-- The text of a document, indented in steps of `best` columns. -/
def render (best : Nat) (doc : Piece) : String :=
  let p := doc.write best (-1) false false {}
  let p := if !p.indention || p.column > 0 || !p.whitespace && p.column == 0 then p.newline else p
  p.out

/-- Strings that older YAML read as booleans. -/
def oldBool (s : String) : Bool :=
  ["y", "Y", "yes", "Yes", "YES", "on", "On", "ON", "n", "N", "no", "No", "NO", "off", "Off", "OFF"].contains s

/-- Whether a text reads as a sexagesimal number (`1:30`, `-2:05:10.5`). -/
def sexagesimal (s : String) : Bool :=
  let (_, body) := splitSign s.toList
  match body with
  | c :: rest =>
    if !c.isDigit then false
    else
      let head := rest.takeWhile fun d => d.isDigit || d == '_'
      let rest := rest.drop head.length
      -- one or more groups of a colon and one or two digits, the first below 6
      let rec groups : Nat → List Char → Bool × List Char
        | 0, r => (false, r)
        | fuel + 1, ':' :: d :: r =>
          if !d.isDigit then (false, ':' :: d :: r)
          else
            let r := match r with
              | e :: r2 => if e.isDigit && d.toNat ≤ '5'.toNat then r2 else e :: r2
              | [] => []
            match r with
            | ':' :: _ => match groups fuel r with
              | (_, r2) => (true, r2)
            | _ => (true, r)
        | _, r => (false, r)
      let (any, rest) := groups (s.length + 1) rest
      any && match rest with
        | [] => true
        | '.' :: r => r.all fun d => d.isDigit || d == '_'
        | _ => false
  | [] => false

namespace Piece

/-- A string, plain when it reads back as itself. -/
def ofString (s : String) : Piece :=
  let plain := match resolvePlain s with
    | .str _ => !(sexagesimal s || oldBool s)
    | _ => false
  if s.contains '\n' then .scalar s .literal
  else if plain then .scalar s .plain
  else .scalar s .double

/-- A double: shortest digits, `.inf`, `-.inf` or `.nan`. -/
def ofFloat (x : Float) : Piece :=
  .scalar (if x.isNaN then ".nan" else if x.isInf then (if x > 0.0 then ".inf" else "-.inf")
    else Decimal.general x) .plain

/-- An integer. -/
def ofInt (i : Int) : Piece := .scalar (toString i) .plain

/-- A boolean. -/
def ofBool (b : Bool) : Piece := .scalar (if b then "true" else "false") .plain

/-- A record: its fields in order under their names. -/
def record (fields : List (String × Piece)) : Piece := .map (fields.map fun (k, v) => (ofString k, v))

end Piece

end Multibody.Yaml
