/-!
# Reading YAML text into tokens

The text becomes a queue of tokens: stream and document markers, block and
flow collection bounds, entry, key and value indicators, and scalars with
their quoting style.  Indentation is tracked on a stack.  A scalar becomes a
mapping key when a `:` follows it on the same line within 1024 characters;
the key token is inserted in front of it then.  Tokens are kept at least
three ahead of the reader.  Anchors, aliases, tags, directives and block
scalars stop the scan.
-/

namespace Multibody.Yaml

/-- A position in the text: characters before it, zero-based line and column. -/
structure Mark where
  index : Nat := 0
  line : Nat := 0
  column : Nat := 0
  deriving Inhabited, BEq, Repr

/-- How a scalar is written. -/
inductive Style where
  | plain
  | single
  | double
  | literal
  deriving Inhabited, BEq, Repr, DecidableEq

/-- The kinds of token. -/
inductive Tok where
  | streamStart
  | streamEnd
  | documentStart
  | documentEnd
  | blockSequenceStart
  | blockMappingStart
  | blockEnd
  | flowSequenceStart
  | flowSequenceEnd
  | flowMappingStart
  | flowMappingEnd
  | blockEntry
  | flowEntry
  | key
  | value
  | scalar (text : String) (style : Style)
  deriving Inhabited, BEq, Repr

/-- A token and where it starts and stops. -/
structure Token where
  tok : Tok
  start : Mark
  stop : Mark
  deriving Inhabited

/-- Why YAML text could not be read: the problem, where it was found, and the
start of the construct being read then.  `scanning` tells a problem of the
token reader from one of the grammar. -/
structure Problem where
  scanning : Bool := false
  contextMark : Mark := {}
  problem : String
  problemMark : Mark := {}
  deriving Inhabited

/-- The message of a problem: `yaml: line N: problem`, with the line of the
construct (or else of the problem) when it is not the first.  Token-reader
lines are shown one-based, grammar lines as they are. -/
def Problem.message (p : Problem) : String :=
  let bump := if p.scanning then 1 else 0
  let line :=
    if p.contextMark.line != 0 then p.contextMark.line + bump
    else if p.problemMark.line != 0 then p.problemMark.line + bump
    else 0
  "yaml: " ++ (if line != 0 then "line " ++ toString line ++ ": " else "") ++ p.problem

/-- A place where a simple key may have started. -/
structure SimpleKey where
  possible : Bool := false
  required : Bool := false
  number : Nat := 0
  mark : Mark := {}
  deriving Inhabited

/-- The state of the token reader.  `tokens` keeps every token produced;
the first `parsed` of them have been handed on. -/
structure Scanner where
  text : Array Char
  mark : Mark := {}
  newlines : Nat := 0
  tokens : Array Token := #[]
  parsed : Nat := 0
  indent : Int := -1
  indents : List Int := []
  keyAllowed : Bool := false
  keys : Array SimpleKey := #[]
  flowLevel : Nat := 0
  started : Bool := false
  deriving Inhabited

/-- Reading tokens: the reader's state, and a problem that ends the read. -/
abbrev Scan := StateT Scanner (Except Problem)

/-- A line break: line feed, carriage return, next line, line or paragraph
separator. -/
def isBreak (c : Char) : Bool :=
  c == '\n' || c == '\r' || c.toNat == 0x85 || c.toNat == 0x2028 || c.toNat == 0x2029

/-- The opening brace of a flow mapping. -/
def openBrace : Char := Char.ofNat 0x7B

/-- The closing brace of a flow mapping. -/
def closeBrace : Char := Char.ofNat 0x7D

/-- Characters that cannot start a plain scalar (some only when a blank
follows them). -/
def indicatorChars : List Char :=
  ['-', '?', ':', ',', '[', ']', openBrace, closeBrace, '#', '&', '*', '!', '|', '>', '\'', '"', '%',
   '@', Char.ofNat 0x60]

/-- A space or a tab. -/
def isBlank (c : Char) : Bool := c == ' ' || c == '\t'

/-- The end of the text, read as a NUL character. -/
def isEnd (c : Char) : Bool := c.toNat == 0

/-- A blank, a break or the end. -/
def isBlankEnd (c : Char) : Bool := isBlank c || isBreak c || isEnd c

/-- A break or the end. -/
def isBreakEnd (c : Char) : Bool := isBreak c || isEnd c

/-- Characters YAML text may hold. -/
def allowedChar (c : Char) : Bool :=
  let n := c.toNat
  n == 0x09 || n == 0x0A || n == 0x0D || (0x20 ≤ n && n ≤ 0x7E) || n == 0x85 ||
  (0xA0 ≤ n && n ≤ 0xD7FF) || (0xE000 ≤ n && n ≤ 0xFFFD) || (0x10000 ≤ n && n ≤ 0x10FFFF)

/-- The value of a hexadecimal digit. -/
def hexDigit? (c : Char) : Option Nat :=
  if '0' ≤ c && c ≤ '9' then some (c.toNat - '0'.toNat)
  else if 'a' ≤ c && c ≤ 'f' then some (c.toNat - 'a'.toNat + 10)
  else if 'A' ≤ c && c ≤ 'F' then some (c.toNat - 'A'.toNat + 10)
  else none

namespace Scanner

/-- A reader at the start of a text; empty text reads as one line break, and
a leading byte-order mark is dropped.  Text with a control character is
refused. -/
def ofText (text : String) : Except Problem Scanner :=
  let cs := if text.isEmpty then ['\n'] else text.toList
  let cs := match cs with
    | c :: rest => if c.toNat == 0xFEFF then rest else cs
    | [] => cs
  if cs.all allowedChar then .ok { text := cs.toArray }
  else .error { problem := "control characters are not allowed" }

/-- The character `k` places ahead, NUL past the end. -/
def ahead (s : Scanner) (k : Nat) : Char := s.text.getD (s.mark.index + k) (Char.ofNat 0)

/-- Whether a document marker `---` or `...` followed by a blank starts here. -/
def markerAhead (s : Scanner) (c : Char) : Bool :=
  s.ahead 0 == c && s.ahead 1 == c && s.ahead 2 == c && isBlankEnd (s.ahead 3)

/-- The possible key of the innermost flow level. -/
def topKey (s : Scanner) : SimpleKey := s.keys.back?.getD {}

end Scanner

/-- The current character, `k` places ahead. -/
def peekChar (k : Nat) : Scan Char := do return (← get).ahead k

/-- Moves past one character that is not a line break. -/
def advance : Scan Unit := modify fun s =>
  { s with mark := { s.mark with index := s.mark.index + 1, column := s.mark.column + 1 },
           newlines := if isBlank (s.ahead 0) then s.newlines else 0 }

/-- Moves past one line break; `\r\n` is one break. -/
def advanceLine : Scan Unit := modify fun s =>
  let width := if s.ahead 0 == '\r' && s.ahead 1 == '\n' then 2 else 1
  if isBreak (s.ahead 0) then
    { s with mark := { index := s.mark.index + width, line := s.mark.line + 1, column := 0 },
             newlines := s.newlines + 1 }
  else s

/-- Takes the current character. -/
def takeChar : Scan Char := do
  let c ← peekChar 0
  advance
  return c

/-- Takes a line break: carriage returns, line feeds and next-line characters
read as a line feed, line and paragraph separators as themselves. -/
def takeBreak : Scan String := do
  let c ← peekChar 0
  advanceLine
  return if c.toNat == 0x2028 || c.toNat == 0x2029 then c.toString else "\n"

/-- Stops the scan with a problem found at the current position, while
reading the construct that starts at `context`. -/
def fail {α : Type} (context : Mark) (problem : String) : Scan α := do
  throw { scanning := true, contextMark := context, problem, problemMark := (← get).mark }

/-- Appends a token. -/
def push (t : Tok) (start stop : Mark) : Scan Unit :=
  modify fun s => { s with tokens := s.tokens.push ⟨t, start, stop⟩ }

/-- Inserts a token at position `i` of the queue. -/
def insertToken (i : Nat) (t : Token) : Scan Unit :=
  modify fun s => { s with tokens := (s.tokens.extract 0 i).push t ++ s.tokens.extract i s.tokens.size }

/-- Replaces the possible key of the innermost flow level. -/
def setTopKey (k : SimpleKey) : Scan Unit :=
  modify fun s => { s with keys := s.keys.set! (s.keys.size - 1) k }

/-- Sets whether a simple key may start next. -/
def allowKey (b : Bool) : Scan Unit := modify fun s => { s with keyAllowed := b }

/-- Forgets the possible key of the innermost level; a required key that
never met its `:` is an error. -/
def removeKey : Scan Unit := do
  let k := (← get).topKey
  if k.possible then
    if k.required then fail k.mark "could not find expected ':'"
    setTopKey { k with possible := false }

/-- Remembers that a simple key may start here. -/
def saveKey : Scan Unit := do
  let s ← get
  let required := s.flowLevel == 0 && s.indent == (s.mark.column : Int)
  if s.keyAllowed then
    let k : SimpleKey := { possible := true, required, number := s.tokens.size, mark := s.mark }
    removeKey
    setTopKey k

/-- Whether a possible key can still be a key here: on its own line and
within 1024 characters.  Returns the key, no longer possible if it went stale. -/
def checkKey (k : SimpleKey) : Scan (Bool × SimpleKey) := do
  let s ← get
  if !k.possible then return (false, k)
  if k.mark.line < s.mark.line || k.mark.index + 1024 < s.mark.index then
    if k.required then fail k.mark "could not find expected ':'"
    return (false, { k with possible := false })
  return (true, k)

/-- Opens a block collection when `column` is further right than the current
level: the start token goes at position `number` of the queue, or last. -/
def rollIndent (column : Nat) (number : Option Nat) (t : Tok) (m : Mark) : Scan Unit := do
  let s ← get
  if s.flowLevel > 0 then return
  if s.indent < (column : Int) then
    set { s with indents := s.indent :: s.indents, indent := column }
    if s.indents.length + 1 > 10000 then fail s.topKey.mark "exceeded max depth of 10000"
    match number with
    | some n => insertToken n ⟨t, m, m⟩
    | none => push t m m

/-- Closes every block level further right than `column`. -/
def unrollIndent (column : Int) (scanMark : Mark) : Scan Unit := do
  let s ← get
  if s.flowLevel > 0 then return
  let m := { scanMark with index := scanMark.index - 1 }
  for _ in [0:s.indents.length] do
    let s ← get
    if s.indent > column then
      match s.indents with
      | i :: rest => set { s with tokens := s.tokens.push ⟨.blockEnd, m, m⟩, indent := i, indents := rest }
      | [] => pure ()

/-- Skips blanks, comments and line breaks up to the next token.  Tabs are
skipped only where a simple key may not start, or inside flow collections. -/
def skipToToken : Scan Unit := do
  let bound := (← get).text.size + 1
  for _ in [0:bound] do
    let s ← get
    if s.mark.column == 0 && (s.ahead 0).toNat == 0xFEFF then advance
    for _ in [0:bound] do
      let s ← get
      let c := s.ahead 0
      if c == ' ' || ((s.flowLevel > 0 || !s.keyAllowed) && c == '\t') then advance else break
    if (← peekChar 0) == '#' then
      for _ in [0:bound] do
        if isBreakEnd (← peekChar 0) then break
        advance
    let s ← get
    if isBreak (s.ahead 0) then
      advanceLine
      if s.flowLevel == 0 then allowKey true
    else break

/-- Skips a comment that follows a token on the same line. -/
def skipLineComment : Scan Unit := do
  let s ← get
  if s.newlines > 0 then return
  let blanks := ((List.range (s.text.size + 1)).find? fun k => !isBlank (s.ahead k)).getD 0
  if s.ahead blanks == '#' then
    for _ in [0:s.text.size + 1] do
      if isBreakEnd (← peekChar 0) then break
      advance

/-- The stream-start token, with the block level and its possible key. -/
def fetchStreamStart : Scan Unit := modify fun s =>
  { s with indent := -1, keys := #[{}], keyAllowed := true, started := true,
           tokens := s.tokens.push ⟨.streamStart, s.mark, s.mark⟩ }

/-- The stream-end token, on a line of its own, after closing every level. -/
def fetchStreamEnd : Scan Unit := do
  let s ← get
  if s.mark.column != 0 then
    set { s with mark := { s.mark with column := 0, line := s.mark.line + 1 } }
  let m := (← get).mark
  unrollIndent (-1) m
  removeKey
  allowKey false
  push .streamEnd m m

/-- A one- or three-character indicator token. -/
def fetchIndicator (t : Tok) (width : Nat) : Scan Unit := do
  let start := (← get).mark
  for _ in [0:width] do advance
  push t start (← get).mark

/-- A document marker `---` or `...`. -/
def fetchDocumentMarker (t : Tok) : Scan Unit := do
  unrollIndent (-1) (← get).mark
  removeKey
  allowKey false
  fetchIndicator t 3

/-- An opening `[` or `{`: a possible key, and one flow level deeper. -/
def fetchFlowStart (t : Tok) : Scan Unit := do
  saveKey
  let s ← get
  set { s with keys := s.keys.push { mark := s.mark }, flowLevel := s.flowLevel + 1 }
  if s.flowLevel + 1 > 10000 then fail s.mark "exceeded max depth of 10000"
  allowKey true
  fetchIndicator t 1

/-- A closing `]` or `}`: one flow level up. -/
def fetchFlowEnd (t : Tok) : Scan Unit := do
  removeKey
  modify fun s => if s.flowLevel > 0 then { s with flowLevel := s.flowLevel - 1, keys := s.keys.pop } else s
  allowKey false
  fetchIndicator t 1

/-- A comma between flow entries. -/
def fetchFlowEntry : Scan Unit := do
  removeKey
  allowKey true
  fetchIndicator .flowEntry 1

/-- A dash before a block sequence entry. -/
def fetchBlockEntry : Scan Unit := do
  let s ← get
  if s.flowLevel == 0 then
    if !s.keyAllowed then fail s.mark "block sequence entries are not allowed in this context"
    rollIndent s.mark.column none .blockSequenceStart s.mark
  removeKey
  allowKey true
  fetchIndicator .blockEntry 1

/-- A question mark before an explicit key. -/
def fetchKey : Scan Unit := do
  let s ← get
  if s.flowLevel == 0 then
    if !s.keyAllowed then fail s.mark "mapping keys are not allowed in this context"
    rollIndent s.mark.column none .blockMappingStart s.mark
  removeKey
  allowKey ((← get).flowLevel == 0)
  fetchIndicator .key 1

/-- A colon after a key: the possible simple key becomes a key token, opening a
block mapping where it starts; without one the `:` starts a value of its own. -/
def fetchValue : Scan Unit := do
  let (valid, k) ← checkKey (← get).topKey
  setTopKey k
  if valid then
    insertToken k.number ⟨.key, k.mark, k.mark⟩
    rollIndent k.mark.column (some k.number) .blockMappingStart k.mark
    setTopKey { k with possible := false }
    allowKey false
  else
    let s ← get
    if s.flowLevel == 0 then
      if !s.keyAllowed then fail s.mark "mapping values are not allowed in this context"
      rollIndent s.mark.column none .blockMappingStart s.mark
    allowKey ((← get).flowLevel == 0)
  fetchIndicator .value 1

/-- Line breaks after blanks fold: one break becomes a space, more become
the breaks after the first. -/
def foldBreaks (leading trailing : String) : String :=
  if leading.front == '\n' then (if trailing.isEmpty then " " else trailing)
  else leading ++ trailing

/-- Reads a plain scalar: it ends before `: `, a comment, a flow indicator
in flow context, a document marker, or a line less indented than the block. -/
def scanPlain : Scan Token := do
  let s0 ← get
  let bound := s0.text.size + 1
  let indent : Int := s0.indent + 1
  let start := s0.mark
  let mut stop := s0.mark
  let mut out := ""
  let mut leadingBreak := ""
  let mut trailingBreaks := ""
  let mut whitespaces := ""
  let mut leadingBlanks := false
  for _ in [0:bound] do
    let s ← get
    if s.mark.column == 0 && (s.markerAhead '-' || s.markerAhead '.') then break
    if s.ahead 0 == '#' then break
    for _ in [0:bound] do
      let s ← get
      let c := s.ahead 0
      if isBlankEnd c then break
      if (c == ':' && isBlankEnd (s.ahead 1)) ||
          (s.flowLevel > 0 && (c == ',' || c == '?' || c == '[' || c == ']' || c == openBrace || c == closeBrace)) then
        break
      if leadingBlanks then
        out := out ++ foldBreaks leadingBreak trailingBreaks
        leadingBreak := ""
        trailingBreaks := ""
        leadingBlanks := false
      else if !whitespaces.isEmpty then
        out := out ++ whitespaces
        whitespaces := ""
      out := out.push (← takeChar)
      stop := (← get).mark
    let c ← peekChar 0
    if !(isBlank c || isBreak c) then break
    for _ in [0:bound] do
      let s ← get
      let c := s.ahead 0
      if isBlank c then
        if leadingBlanks && (s.mark.column : Int) < indent && c == '\t' then
          fail start "found a tab character that violates indentation"
        if leadingBlanks then advance
        else whitespaces := whitespaces.push (← takeChar)
      else if isBreak c then
        if leadingBlanks then trailingBreaks := trailingBreaks ++ (← takeBreak)
        else
          whitespaces := ""
          leadingBreak := leadingBreak ++ (← takeBreak)
          leadingBlanks := true
      else break
    let s ← get
    if s.flowLevel == 0 && (s.mark.column : Int) < indent then break
  if leadingBlanks then allowKey true
  return ⟨.scalar out .plain, start, stop⟩

/-- The character a one-letter escape of a double-quoted scalar stands for,
or the number of hexadecimal digits of a code escape. -/
def escapeOf (c : Char) : Option (Char ⊕ Nat) :=
  match c with
  | '0' => some (.inl (Char.ofNat 0))
  | 'a' => some (.inl (Char.ofNat 7))
  | 'b' => some (.inl (Char.ofNat 8))
  | 't' => some (.inl '\t')
  | '\t' => some (.inl '\t')
  | 'n' => some (.inl '\n')
  | 'v' => some (.inl (Char.ofNat 11))
  | 'f' => some (.inl (Char.ofNat 12))
  | 'r' => some (.inl '\r')
  | 'e' => some (.inl (Char.ofNat 27))
  | ' ' => some (.inl ' ')
  | '"' => some (.inl '"')
  | '\'' => some (.inl '\'')
  | '\\' => some (.inl '\\')
  | 'N' => some (.inl (Char.ofNat 0x85))
  | '_' => some (.inl (Char.ofNat 0xA0))
  | 'L' => some (.inl (Char.ofNat 0x2028))
  | 'P' => some (.inl (Char.ofNat 0x2029))
  | 'x' => some (.inr 2)
  | 'u' => some (.inr 4)
  | 'U' => some (.inr 8)
  | _ => none

/-- Reads a code escape of `len` hexadecimal digits. -/
def takeCode (start : Mark) (len : Nat) : Scan Char := do
  let s ← get
  let mut v := 0
  for k in [0:len] do
    match hexDigit? (s.ahead k) with
    | some d => v := v * 16 + d
    | none => fail start "did not find expected hexdecimal number"
  if (0xD800 ≤ v && v ≤ 0xDFFF) || v > 0x10FFFF then
    fail start "found invalid Unicode character escape code"
  for _ in [0:len] do advance
  return Char.ofNat v

/-- Reads a single- or double-quoted scalar, folding its line breaks. -/
def scanQuoted (single : Bool) : Scan Token := do
  let s0 ← get
  let bound := s0.text.size + 2
  let start := s0.mark
  advance
  let mut out := ""
  let mut leadingBreak := ""
  let mut trailingBreaks := ""
  let mut whitespaces := ""
  for _ in [0:bound] do
    let s ← get
    if s.mark.column == 0 && (s.markerAhead '-' || s.markerAhead '.') then
      fail start "found unexpected document indicator"
    if isEnd (s.ahead 0) then fail start "found unexpected end of stream"
    let mut leadingBlanks := false
    for _ in [0:bound] do
      let s ← get
      let c := s.ahead 0
      if isBlankEnd c then break
      if single && c == '\'' && s.ahead 1 == '\'' then
        out := out.push '\''
        advance
        advance
      else if single && c == '\'' then break
      else if !single && c == '"' then break
      else if !single && c == '\\' && isBreak (s.ahead 1) then
        advance
        advanceLine
        leadingBlanks := true
        break
      else if !single && c == '\\' then
        match escapeOf (s.ahead 1) with
        | some (.inl e) =>
          out := out.push e
          advance
          advance
        | some (.inr len) =>
          advance
          advance
          out := out.push (← takeCode start len)
        | none => fail start "found unknown escape character"
      else out := out.push (← takeChar)
    let c ← peekChar 0
    if (single && c == '\'') || (!single && c == '"') then break
    for _ in [0:bound] do
      let c ← peekChar 0
      if isBlank c then
        if leadingBlanks then advance
        else whitespaces := whitespaces.push (← takeChar)
      else if isBreak c then
        if leadingBlanks then trailingBreaks := trailingBreaks ++ (← takeBreak)
        else
          whitespaces := ""
          leadingBreak := leadingBreak ++ (← takeBreak)
          leadingBlanks := true
      else break
    if leadingBlanks then
      out := out ++ (if leadingBreak.isEmpty then trailingBreaks else foldBreaks leadingBreak trailingBreaks)
      leadingBreak := ""
      trailingBreaks := ""
    else
      out := out ++ whitespaces
      whitespaces := ""
  advance
  return ⟨.scalar out (if single then .single else .double), start, (← get).mark⟩

/-- Reads a scalar that may turn out to be a simple key. -/
def fetchScalar (read : Scan Token) : Scan Unit := do
  saveKey
  allowKey false
  let t ← read
  modify fun s => { s with tokens := s.tokens.push t }

/-- Whether `c` may start a plain scalar here. -/
def plainStart (s : Scanner) (c : Char) : Bool :=
  !(isBlankEnd c || indicatorChars.contains c) ||
  (c == '-' && !isBlank (s.ahead 1)) ||
  (s.flowLevel == 0 && (c == '?' || c == ':') && !isBlankEnd (s.ahead 1))

/-- Produces the next token (or several, when indentation closes levels). -/
def fetchNext : Scan Unit := do
  if !(← get).started then
    fetchStreamStart
    return
  let scanMark := (← get).mark
  skipToToken
  unrollIndent (← get).mark.column scanMark
  let s ← get
  let c := s.ahead 0
  let m := s.mark
  if isEnd c then
    fetchStreamEnd
    return
  if m.column == 0 && s.markerAhead '-' then
    fetchDocumentMarker .documentStart
    return
  if m.column == 0 && s.markerAhead '.' then
    fetchDocumentMarker .documentEnd
    return
  let flow := s.flowLevel > 0
  if c == '[' then fetchFlowStart .flowSequenceStart
  else if c == openBrace then fetchFlowStart .flowMappingStart
  else if c == ']' then fetchFlowEnd .flowSequenceEnd
  else if c == closeBrace then fetchFlowEnd .flowMappingEnd
  else if c == ',' then fetchFlowEntry
  else if c == '-' && isBlankEnd (s.ahead 1) then fetchBlockEntry
  else if c == '?' && (flow || isBlankEnd (s.ahead 1)) then fetchKey
  else if c == ':' && (flow || isBlankEnd (s.ahead 1)) then fetchValue
  else if c == '\'' then fetchScalar (scanQuoted true)
  else if c == '"' then fetchScalar (scanQuoted false)
  else if plainStart s c then fetchScalar scanPlain
  else fail m "found character that cannot start any token"
  match (← get).tokens.back? with
  | some t => if t.tok != .blockEntry then skipLineComment
  | none => pure ()

/-- Produces tokens until the reader has three ahead and the next one cannot
still turn into a key. -/
def fetchMore : Scan Unit := do
  let bound := 5 * (← get).text.size + 16
  for _ in [0:bound] do
    let s ← get
    if s.parsed + 2 < s.tokens.size then
      match s.keys.findIdx? (fun k => k.possible && k.number == s.parsed) with
      | none => break
      | some i =>
        let (valid, k) ← checkKey s.keys[i]!
        modify fun s => { s with keys := s.keys.set! i k }
        if !valid then break
    fetchNext

/-- The next token, without taking it. -/
def peekToken : Scan Token := do
  fetchMore
  let s ← get
  return s.tokens[s.parsed]!

/-- Takes the next token. -/
def skipToken : Scan Unit := modify fun s => { s with parsed := s.parsed + 1 }

end Multibody.Yaml
