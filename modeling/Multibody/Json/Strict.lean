import Multibody.Json.Read
import Multibody.Text.Quoted

/-!
# Checked JSON text

Stored metadata is read back strictly: the whole text is first checked
character by character, and the first character that cannot continue a JSON
text is reported with what was expected there: `invalid character 'n'
looking for beginning of object key string`.  Text that ends too early is
`unexpected end of JSON input`, unless the last token could not end even
with a blank after it, in which case that blank is the invalid character.

Checked text is then read into a `Written` tree, which keeps each number as
it was written, so a consumer can tell `3` from `3.0` and quote the number
when it does not fit.
-/

namespace Multibody.Json

/-- Where the checker is: what may come next. -/
inductive Lex where
  | beginValue
  | beginValueOrEmpty
  | beginStringOrEmpty
  | beginString
  | endValue
  | endTop
  | inString
  | inStringEsc
  /-- inside a `\u` escape with `n` hexadecimal digits read -/
  | escU (n : Nat)
  | neg
  | one
  | zero
  | dot
  | dot0
  | exp
  | expSign
  | exp0
  /-- inside the word `w`, `i` letters read -/
  | word (w : String) (i : Nat)
  deriving BEq

/-- What an open collection expects. -/
inductive Frame where
  | objectKey
  | objectValue
  | arrayValue
  deriving BEq

/-- JSON whitespace. -/
def isSpace (c : Char) : Bool := c == ' ' || c == '\t' || c == '\r' || c == '\n'

/-- A character as the checker names it: its first byte, as a character. -/
def quoteChar (c : Char) : String :=
  let b := (String.singleton c).toUTF8.get! 0
  let c := Char.ofNat b.toNat
  if c == '\'' then "'\\''"
  else if c == '"' then "'\"'"
  else
    let q := Text.quoted (String.singleton c)
    "'" ++ String.ofList ((q.toList.drop 1).dropLast) ++ "'"

/-- The error for an unexpected character. -/
def invalidChar (c : Char) (context : String) : String :=
  "invalid character " ++ quoteChar c ++ " " ++ context

/-- Replaces the innermost open collection's expectation. -/
def setTop (stack : List Frame) (f : Frame) : List Frame :=
  match stack with
  | _ :: rest => f :: rest
  | [] => [f]

/-- After a complete value: the next state given the open collections. -/
def afterValue (stack : List Frame) : Lex := if stack.isEmpty then .endTop else .endValue

/-- One checking step. -/
def lexStep (st : Lex) (stack : List Frame) (c : Char) : Except String (Lex × List Frame) :=
  let beginValue : Except String (Lex × List Frame) :=
    if isSpace c then .ok (.beginValue, stack)
    else if c == '\x7b' then .ok (.beginStringOrEmpty, .objectKey :: stack)
    else if c == '[' then .ok (.beginValueOrEmpty, .arrayValue :: stack)
    else if c == '"' then .ok (.inString, stack)
    else if c == '-' then .ok (.neg, stack)
    else if c == '0' then .ok (.zero, stack)
    else if '1' ≤ c && c ≤ '9' then .ok (.one, stack)
    else if c == 't' then .ok (.word "true" 1, stack)
    else if c == 'f' then .ok (.word "false" 1, stack)
    else if c == 'n' then .ok (.word "null" 1, stack)
    else .error (invalidChar c "looking for beginning of value")
  let endValue (stack : List Frame) : Except String (Lex × List Frame) :=
    match stack with
    | [] => if isSpace c then .ok (.endTop, []) else .error (invalidChar c "after top-level value")
    | top :: rest =>
      if isSpace c then .ok (.endValue, stack)
      else match top with
        | .objectKey =>
          if c == ':' then .ok (.beginValue, .objectValue :: rest)
          else .error (invalidChar c "after object key")
        | .objectValue =>
          if c == ',' then .ok (.beginString, .objectKey :: rest)
          else if c == '\x7d' then .ok (afterValue rest, rest)
          else .error (invalidChar c "after object key:value pair")
        | .arrayValue =>
          if c == ',' then .ok (.beginValue, stack)
          else if c == ']' then .ok (afterValue rest, rest)
          else .error (invalidChar c "after array element")
  let zero : Except String (Lex × List Frame) :=
    if c == '.' then .ok (.dot, stack)
    else if c == 'e' || c == 'E' then .ok (.exp, stack)
    else endValue stack
  let expSign : Except String (Lex × List Frame) :=
    if c.isDigit then .ok (.exp0, stack) else .error (invalidChar c "in exponent of numeric literal")
  match st with
  | .beginValue => beginValue
  | .beginValueOrEmpty =>
    if isSpace c then .ok (.beginValueOrEmpty, stack)
    else if c == ']' then endValue stack
    else beginValue
  | .beginStringOrEmpty =>
    if isSpace c then .ok (.beginStringOrEmpty, stack)
    else if c == '\x7d' then endValue (setTop stack .objectValue)
    else if c == '"' then .ok (.inString, stack)
    else .error (invalidChar c "looking for beginning of object key string")
  | .beginString =>
    if isSpace c then .ok (.beginString, stack)
    else if c == '"' then .ok (.inString, stack)
    else .error (invalidChar c "looking for beginning of object key string")
  | .endValue => endValue stack
  | .endTop => if isSpace c then .ok (.endTop, stack) else .error (invalidChar c "after top-level value")
  | .inString =>
    if c == '"' then .ok (afterValue stack, stack)
    else if c == '\\' then .ok (.inStringEsc, stack)
    else if c.toNat < 0x20 then .error (invalidChar c "in string literal")
    else .ok (.inString, stack)
  | .inStringEsc =>
    if "bfnrt\\/\"".contains c then .ok (.inString, stack)
    else if c == 'u' then .ok (.escU 0, stack)
    else .error (invalidChar c "in string escape code")
  | .escU n =>
    if (Decimal.hexValue? c).isSome then .ok (if n == 3 then .inString else .escU (n + 1), stack)
    else .error (invalidChar c "in \\u hexadecimal character escape")
  | .neg =>
    if c == '0' then .ok (.zero, stack)
    else if '1' ≤ c && c ≤ '9' then .ok (.one, stack)
    else .error (invalidChar c "in numeric literal")
  | .one => if c.isDigit then .ok (.one, stack) else zero
  | .zero => zero
  | .dot =>
    if c.isDigit then .ok (.dot0, stack)
    else .error (invalidChar c "after decimal point in numeric literal")
  | .dot0 =>
    if c.isDigit then .ok (.dot0, stack)
    else if c == 'e' || c == 'E' then .ok (.exp, stack)
    else endValue stack
  | .exp => if c == '+' || c == '-' then .ok (.expSign, stack) else expSign
  | .expSign => expSign
  | .exp0 => if c.isDigit then .ok (.exp0, stack) else endValue stack
  | .word w i =>
    let expected := (w.toList.drop i).headD ' '
    if c == expected then
      .ok (if i + 1 == w.length then afterValue stack else .word w (i + 1), stack)
    else .error (invalidChar c ("in literal " ++ w ++ " (expecting " ++ quoteChar expected ++ ")"))

/-- Checks that a whole text is one JSON value. -/
def check (text : String) : Except String Unit := do
  let (st, stack) ← text.toList.foldlM (fun (st, stack) c => lexStep st stack c) (Lex.beginValue, [])
  if st == .endTop then return ()
  let (st, _) ← lexStep st stack ' '
  if st == .endTop then return ()
  throw "unexpected end of JSON input"

/-- A JSON value as written: numbers keep their text. -/
inductive Written where
  | null
  | bool (b : Bool)
  | number (text : String)
  | str (s : String)
  | arr (items : List Written)
  | obj (members : List (String × Written))
  deriving Inhabited

/-- The kind of a written value, as type mismatches name it. -/
def Written.kind : Written → String
  | .null => "null"
  | .bool _ => "bool"
  | .number _ => "number"
  | .str _ => "string"
  | .arr _ => "array"
  | .obj _ => "object"

/-- The characters of a number. -/
def isNumberChar (c : Char) : Bool := c.isDigit || c == '-' || c == '+' || c == '.' || c == 'e' || c == 'E'

mutual
/-- Reads one checked value; `fuel` bounds the nesting. -/
def readWritten : Nat → List Char → Option (Written × List Char)
  | 0, _ => none
  | fuel + 1, cs =>
    match skipBlank cs with
    | '\x7b' :: r => writtenMembers fuel (skipBlank r) []
    | '[' :: r => writtenItems fuel (skipBlank r) []
    | '"' :: r => (readStringBody r []).map fun (s, r') => (.str s, r')
    | 't' :: 'r' :: 'u' :: 'e' :: r => some (.bool true, r)
    | 'f' :: 'a' :: 'l' :: 's' :: 'e' :: r => some (.bool false, r)
    | 'n' :: 'u' :: 'l' :: 'l' :: r => some (.null, r)
    | r =>
      let n := r.takeWhile isNumberChar
      if n.isEmpty then none else some (.number (String.ofList n), r.drop n.length)

/-- Reads the members of an object after its opening brace. -/
def writtenMembers : Nat → List Char → List (String × Written) → Option (Written × List Char)
  | 0, _, _ => none
  | fuel + 1, cs, acc =>
    match cs with
    | '\x7d' :: r => if acc.isEmpty then some (.obj [], r) else none
    | '"' :: r =>
      match readStringBody r [] with
      | none => none
      | some (k, r) =>
        match skipBlank r with
        | ':' :: r =>
          match readWritten fuel r with
          | none => none
          | some (v, r) =>
            match skipBlank r with
            | ',' :: r => writtenMembers fuel (skipBlank r) ((k, v) :: acc)
            | '\x7d' :: r => some (.obj ((k, v) :: acc).reverse, r)
            | _ => none
        | _ => none
    | _ => none

/-- Reads the items of an array after `[`. -/
def writtenItems : Nat → List Char → List Written → Option (Written × List Char)
  | 0, _, _ => none
  | fuel + 1, cs, acc =>
    match cs with
    | ']' :: r => if acc.isEmpty then some (.arr [], r) else none
    | _ =>
      match readWritten fuel cs with
      | none => none
      | some (v, r) =>
        match skipBlank r with
        | ',' :: r => writtenItems fuel (skipBlank r) (v :: acc)
        | ']' :: r => some (.arr (v :: acc).reverse, r)
        | _ => none
end

/-- Reads a whole text strictly: checked first, then read as written. -/
def readStrict (text : String) : Except String Written := do
  check text
  let cs := text.toList
  match readWritten (cs.length + 1) cs with
  | some (v, _) => return v
  | none => throw "unexpected end of JSON input"

end Multibody.Json
