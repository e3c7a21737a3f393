import Multibody.Json.Basic
import Multibody.Decimal.Format

/-!
# Writing JSON

Compact and indented JSON text.  Strings escape the quote, the backslash,
control characters, `<`, `>`, `&` and the two Unicode line separators, so the
text is safe inside HTML.  A double is written with `Decimal.jsonNumber`; how a
NaN or an infinity is written is the caller's choice (`Style.nonFinite`).
-/

namespace Multibody.Json

/-- The hexadecimal digit of a nibble, lower case. -/
def hexDigit (n : Nat) : Char :=
  if n < 10 then Char.ofNat ('0'.toNat + n) else Char.ofNat ('a'.toNat + n - 10)

/-- A backslash, `u` and four hexadecimal digits. -/
def unicodeEscape (n : Nat) : String :=
  "\\u" ++ String.ofList [hexDigit (n / 4096 % 16), hexDigit (n / 256 % 16),
    hexDigit (n / 16 % 16), hexDigit (n % 16)]

/-- The escaped form of one character inside a string. -/
def escapeChar (c : Char) : String :=
  if c = '"' then "\\\""
  else if c = '\\' then "\\\\"
  else if c = '\n' then "\\n"
  else if c = '\r' then "\\r"
  else if c = '\t' then "\\t"
  else if c.toNat < 0x20 ∨ c = '<' ∨ c = '>' ∨ c = '&' ∨ c.toNat = 0x2028 ∨ c.toNat = 0x2029 then
    unicodeEscape c.toNat
  else c.toString

/-- A quoted, escaped string. -/
def quote (s : String) : String :=
  "\"" ++ String.join (s.toList.map escapeChar) ++ "\""

/-- How non-finite doubles are written. -/
structure Style where
  nonFinite : Float → String

/-- Non-finite doubles as the strings `"NaN"`, `"Infinity"` and `"-Infinity"`. -/
def Style.spelled : Style where
  nonFinite x :=
    if Decimal.isNaN x then "\"NaN\""
    else if Decimal.signOf x then "\"-Infinity\"" else "\"Infinity\""

/-- The text of a double in a style. -/
def numberText (st : Style) (x : Float) : String :=
  if Decimal.isFinite x then Decimal.jsonNumber x else st.nonFinite x

mutual
/-- Appends the compact text of a value, no whitespace, to `acc`. -/
def compactInto (st : Style) (acc : String) : Json → String
  | .null => acc ++ "null"
  | .bool b => acc ++ (if b then "true" else "false")
  | .int i => acc ++ toString i
  | .num x => acc ++ numberText st x
  | .str s => acc ++ quote s
  | .arr xs => compactItems st (acc ++ "[") xs ++ "]"
  | .obj fs => compactFields st (acc ++ "\x7b") fs ++ "\x7d"

/-- Appends items separated by commas. -/
def compactItems (st : Style) (acc : String) : List Json → String
  | [] => acc
  | [x] => compactInto st acc x
  | x :: xs => compactItems st (compactInto st acc x ++ ",") xs

/-- Appends members separated by commas. -/
def compactFields (st : Style) (acc : String) : List (String × Json) → String
  | [] => acc
  | [(k, v)] => compactInto st (acc ++ quote k ++ ":") v
  | (k, v) :: fs => compactFields st (compactInto st (acc ++ quote k ++ ":") v ++ ",") fs
end

/-- Compact text, no whitespace. -/
def compact (st : Style) (j : Json) : String := compactInto st "" j

mutual
/-- Appends indented text: each member or item on its own line, nested `step`
deeper; empty arrays and objects stay `[]` and `{}`. -/
def indentedInto (st : Style) (step indent acc : String) : Json → String
  | .arr [] => acc ++ "[]"
  | .obj [] => acc ++ "\x7b\x7d"
  | .arr xs => indentedItems st step (indent ++ step) (acc ++ "[\n") xs ++ "\n" ++ indent ++ "]"
  | .obj fs => indentedFields st step (indent ++ step) (acc ++ "\x7b\n") fs ++ "\n" ++ indent ++ "\x7d"
  | .null => acc ++ "null"
  | .bool b => acc ++ (if b then "true" else "false")
  | .int i => acc ++ toString i
  | .num x => acc ++ numberText st x
  | .str s => acc ++ quote s

/-- Appends items one per line at `indent`. -/
def indentedItems (st : Style) (step indent acc : String) : List Json → String
  | [] => acc
  | [x] => indentedInto st step indent (acc ++ indent) x
  | x :: xs => indentedItems st step indent (indentedInto st step indent (acc ++ indent) x ++ ",\n") xs

/-- Appends members one per line at `indent`. -/
def indentedFields (st : Style) (step indent acc : String) : List (String × Json) → String
  | [] => acc
  | [(k, v)] => indentedInto st step indent (acc ++ indent ++ quote k ++ ": ") v
  | (k, v) :: fs =>
    indentedFields st step indent
      (indentedInto st step indent (acc ++ indent ++ quote k ++ ": ") v ++ ",\n") fs
end

/-- Indented text with `step` per level, starting at `indent`. -/
def indented (st : Style) (step indent : String) (j : Json) : String :=
  indentedInto st step indent "" j

mutual
/-- The first non-finite double in a value, if any. -/
def firstNonFinite : Json → Option Float
  | .num x => if Decimal.isFinite x then none else some x
  | .arr xs => firstNonFiniteItems xs
  | .obj fs => firstNonFiniteFields fs
  | _ => none

/-- The first non-finite double among items. -/
def firstNonFiniteItems : List Json → Option Float
  | [] => none
  | x :: xs => (firstNonFinite x).orElse fun _ => firstNonFiniteItems xs

/-- The first non-finite double among members. -/
def firstNonFiniteFields : List (String × Json) → Option Float
  | [] => none
  | (_, v) :: fs => (firstNonFinite v).orElse fun _ => firstNonFiniteFields fs
end

end Multibody.Json
