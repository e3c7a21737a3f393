/-!
# Comma-separated values

Writing quotes a field only when it holds a comma, a quote or a line break,
starts with a space, or is exactly `\.`; quotes inside are doubled.  Reading
takes `\r\n` as `\n`, skips empty lines, and reports a stray quote with its
line and byte column.
-/

namespace Multibody.Store

/-- Whether a field must be quoted. -/
def needsQuotes (field : String) : Bool :=
  if field == "" then false
  else if field == "\\." then true
  else field.any (fun c => c == ',' || c == '"' || c == '\r' || c == '\n') ||
    (match field.toList with
     | c :: _ => c == ' ' || c == '\t' || c == '\n' || c == '\x0B' || c == '\x0C' || c == '\r' ||
        c.toNat == 0x85 || c.toNat == 0xA0 || c.toNat == 0x1680 ||
        (0x2000 ≤ c.toNat && c.toNat ≤ 0x200A) || c.toNat == 0x2028 || c.toNat == 0x2029 ||
        c.toNat == 0x202F || c.toNat == 0x205F || c.toNat == 0x3000
     | [] => false)

/-- A field as written. -/
def fieldText (field : String) : String :=
  if needsQuotes field then "\"" ++ field.replace "\"" "\"\"" ++ "\"" else field

/-- A record as one line. -/
def recordLine (fields : List String) : String := ",".intercalate (fields.map fieldText) ++ "\n"

/-- Why a text is not comma-separated values. -/
structure CsvError where
  startLine : Nat
  line : Nat
  column : Nat
  bareQuote : Bool

/-- The error text. -/
def CsvError.message (e : CsvError) : String :=
  let what := if e.bareQuote then "bare \" in non-quoted field"
    else "extraneous or missing \" in quoted field"
  if e.startLine != e.line then
    s!"record on line {e.startLine}; parse error on line {e.line}, column {e.column}: {what}"
  else s!"parse error on line {e.line}, column {e.column}: {what}"

/-- The input split into lines, each with its `\n` if it has one; `\r\n`
becomes `\n`, and a final `\r` without a line break is dropped. -/
def splitLines (text : String) : List (List Char) :=
  let rec go : List Char → List Char → List (List Char) → List (List Char)
    | [], [], acc => acc.reverse
    | [], cur, acc =>
      let line := cur.reverse
      let line := if line.getLast? == some '\r' then line.dropLast else line
      (line :: acc).reverse
    | '\n' :: rest, cur, acc =>
      let line := ('\n' :: cur).reverse
      let line := match cur with
        | '\r' :: c => ('\n' :: c).reverse
        | _ => line
      go rest [] (line :: acc)
    | c :: rest, cur, acc => go rest (c :: cur) acc
  go text.toList [] []

/-- Bytes in a run of characters. -/
def byteLength (cs : List Char) : Nat := cs.foldl (fun n c => n + c.utf8Size) 0

/-- Whether a line is only its line break. -/
def isBreakOnly (line : List Char) : Bool := line.isEmpty || line == ['\n']

/-- The line without its line break. -/
def withoutBreak (line : List Char) : List Char :=
  if line.getLast? == some '\n' then line.dropLast else line

/-- Reading state: the lines not yet read and the number of lines read. -/
structure CsvReader where
  lines : List (List Char)
  lineNo : Nat := 0

/-- Reads the next line, if any. -/
def CsvReader.next (r : CsvReader) : Option (List Char × CsvReader) :=
  match r.lines with
  | [] => none
  | l :: rest => some (l, { lines := rest, lineNo := r.lineNo + 1 })

/-- The rest of a quoted field.  `buf` holds the field so far, `col` the
column after the opening quote; the result is the field, what follows its
closing quote, and whether the record goes on. -/
def quotedField (fuel : Nat) (startLine : Nat) (line : List Char) (buf : List Char)
    (col lineAt : Nat) (r : CsvReader) :
    Except CsvError (List Char × List Char × Bool × Nat × Nat × CsvReader) :=
  match fuel with
  | 0 => .error ⟨startLine, lineAt, col, false⟩
  | fuel + 1 =>
    match line.findIdx? (· == '"') with
    | some i =>
      let before := line.take i
      let after := line.drop (i + 1)
      let col := col + byteLength before + 1
      match after with
      | '"' :: more => quotedField fuel startLine more (buf ++ before ++ ['"']) (col + 1) lineAt r
      | ',' :: more => .ok (buf ++ before, more, true, col + 1, lineAt, r)
      | rest =>
        if rest.isEmpty || rest == ['\n'] then .ok (buf ++ before, [], false, col, lineAt, r)
        else .error ⟨startLine, r.lineNo, col - 1, false⟩
    | none =>
      if !line.isEmpty then
        match r.next with
        | some (l, r') =>
          let (lineAt, col) := if l.isEmpty then (lineAt, col + byteLength line) else (lineAt + 1, 1)
          quotedField fuel startLine l (buf ++ line) col lineAt r'
        | none => .error ⟨startLine, lineAt, col + byteLength line, false⟩
      else .error ⟨startLine, lineAt, col, false⟩

/-- The fields of the record that starts with `line`, and the reader after
it. -/
def readRecord (fuel : Nat) (line : List Char) (r : CsvReader) :
    Except CsvError (List String × CsvReader) :=
  let startLine := r.lineNo
  let rec fields : Nat → List Char → Nat → CsvReader → List String →
      Except CsvError (List String × CsvReader)
    | 0, _, _, r, acc => .ok (acc.reverse, r)
    | fuel + 1, line, col, r, acc =>
      match line with
      | '"' :: rest =>
        match quotedField (fuel + 1) startLine rest [] (col + 1) r.lineNo r with
        | .error e => .error e
        | .ok (field, more, goesOn, col, _, r) =>
          let acc := String.ofList field :: acc
          if goesOn then fields fuel more col r acc else .ok (acc.reverse, r)
      | _ =>
        match line.findIdx? (· == ',') with
        | some i =>
          let field := line.take i
          match field.findIdx? (· == '"') with
          | some j => .error ⟨startLine, r.lineNo, col + byteLength (field.take j), true⟩
          | none => fields fuel (line.drop (i + 1)) (col + byteLength field + 1) r (String.ofList field :: acc)
        | none =>
          let field := withoutBreak line
          match field.findIdx? (· == '"') with
          | some j => .error ⟨startLine, r.lineNo, col + byteLength (field.take j), true⟩
          | none => .ok ((String.ofList field :: acc).reverse, r)
  fields fuel line 1 r []

/-- Every record of a text. -/
def readRecords (text : String) : Except CsvError (List (List String)) :=
  let lines := splitLines text
  let fuel := text.length + 2
  let rec go : Nat → CsvReader → List (List String) → Except CsvError (List (List String))
    | 0, _, acc => .ok acc.reverse
    | n + 1, r, acc =>
      match r.next with
      | none => .ok acc.reverse
      | some (line, r') =>
        if isBreakOnly line then go n r' acc
        else match readRecord fuel line r' with
          | .error e => .error e
          | .ok (rec, r'') => go n r'' (rec :: acc)
  go (lines.length + 1) { lines } []

end Multibody.Store
