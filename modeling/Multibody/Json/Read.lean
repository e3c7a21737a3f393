import Multibody.Json.Basic

/-!
# Reading JSON

A recursive-descent reader for RFC 8259 text.  Every step consumes at least
one character, so the input length bounds the recursion and serves as fuel.
A number with a fraction or an exponent is read as the nearest double; one
without is kept as an exact integer.
-/

namespace Multibody.Json

/-- Drops JSON whitespace. -/
def skipBlank : List Char → List Char
  | c :: r => if c = ' ' ∨ c = '\n' ∨ c = '\r' ∨ c = '\t' then skipBlank r else c :: r
  | [] => []

/-- The value of four hexadecimal digits. -/
def hex4? (a b c d : Char) : Option Nat :=
  match Decimal.hexValue? a, Decimal.hexValue? b, Decimal.hexValue? c, Decimal.hexValue? d with
  | some x, some y, some z, some w => some (((x * 16 + y) * 16 + z) * 16 + w)
  | _, _, _, _ => none

/-- The character of a `\u` escape whose value is not a surrogate. -/
def plainEscape (n : Nat) : Char :=
  if 0xD800 ≤ n ∧ n < 0xE000 then '\uFFFD' else Char.ofNat n

/-- Reads the rest of a string after its opening quote.  A surrogate pair
of escapes makes one character; a lone surrogate becomes U+FFFD. -/
def readStringBody : List Char → List Char → Option (String × List Char)
  | [], _ => none
  | '"' :: r, acc => some (String.ofList acc.reverse, r)
  | '\\' :: 'u' :: a :: b :: c :: d :: '\\' :: 'u' :: e :: f :: g :: h :: r, acc =>
    match hex4? a b c d, hex4? e f g h with
    | some hi, some lo =>
      if 0xD800 ≤ hi ∧ hi < 0xDC00 ∧ 0xDC00 ≤ lo ∧ lo < 0xE000 then
        readStringBody r (Char.ofNat (0x10000 + (hi - 0xD800) * 0x400 + (lo - 0xDC00)) :: acc)
      else readStringBody ('\\' :: 'u' :: e :: f :: g :: h :: r) (plainEscape hi :: acc)
    | _, _ => none
  | '\\' :: 'u' :: a :: b :: c :: d :: r, acc =>
    match hex4? a b c d with
    | some n => readStringBody r (plainEscape n :: acc)
    | none => none
  | '\\' :: e :: r, acc =>
    match e with
    | '"' => readStringBody r ('"' :: acc)
    | '\\' => readStringBody r ('\\' :: acc)
    | '/' => readStringBody r ('/' :: acc)
    | 'b' => readStringBody r ('\x08' :: acc)
    | 'f' => readStringBody r ('\x0c' :: acc)
    | 'n' => readStringBody r ('\n' :: acc)
    | 'r' => readStringBody r ('\r' :: acc)
    | 't' => readStringBody r ('\t' :: acc)
    | _ => none
  | c :: r, acc => readStringBody r (c :: acc)

/-- Reads a run of decimal digits as a number and its length. -/
def readDigits : List Char → Nat → Nat → Nat × Nat × List Char
  | c :: r, v, n =>
    if c.isDigit then readDigits r (v * 10 + (c.toNat - '0'.toNat)) (n + 1) else (v, n, c :: r)
  | [], v, n => (v, n, [])

/-- Reads a JSON number. -/
def readNumber (cs : List Char) : Option (Json × List Char) :=
  let (neg, r) := match cs with
    | '-' :: r => (true, r)
    | r => (false, r)
  let (intPart, nInt, r) := readDigits r 0 0
  if nInt = 0 then none
  else
    let (frac, nFrac, hasFrac, r) := match r with
      | '.' :: r' =>
        let (f, n, r'') := readDigits r' 0 0
        (f, n, true, r'')
      | _ => (0, 0, false, r)
    if hasFrac ∧ nFrac = 0 then none
    else
      let (exp, hasExp, ok, r) : Int × Bool × Bool × List Char := match r with
        | e :: r' =>
          if e = 'e' ∨ e = 'E' then
            let (eneg, r'') := match r' with
              | '-' :: t => (true, t)
              | '+' :: t => (false, t)
              | t => (false, t)
            let (ev, en, r3) := readDigits r'' 0 0
            ((if eneg then -(ev : Int) else ev), true, en > 0, r3)
          else (0, false, true, e :: r')
        | [] => (0, false, true, [])
      if !ok then none
      else if !hasFrac ∧ !hasExp then
        some (.int (if neg then -(intPart : Int) else intPart), r)
      else
        let digits := intPart * Nat.pow 10 nFrac + frac
        some (.num (Decimal.ofDecimal neg digits (exp - nFrac)), r)

mutual
/-- Reads one value; `fuel` bounds the nesting. -/
def readValue : Nat → List Char → Option (Json × List Char)
  | 0, _ => none
  | fuel + 1, cs =>
    match skipBlank cs with
    | '{' :: r => readMembers fuel (skipBlank r) []
    | '[' :: r => readItems fuel (skipBlank r) []
    | '"' :: r => (readStringBody r []).map fun (s, r') => (.str s, r')
    | 't' :: 'r' :: 'u' :: 'e' :: r => some (.bool true, r)
    | 'f' :: 'a' :: 'l' :: 's' :: 'e' :: r => some (.bool false, r)
    | 'n' :: 'u' :: 'l' :: 'l' :: r => some (.null, r)
    | r => readNumber r

/-- Reads the members of an object after `{`. -/
def readMembers : Nat → List Char → List (String × Json) → Option (Json × List Char)
  | 0, _, _ => none
  | fuel + 1, cs, acc =>
    match cs with
    | '}' :: r => if acc.isEmpty then some (.obj [], r) else none
    | '"' :: r =>
      match readStringBody r [] with
      | none => none
      | some (k, r) =>
        match skipBlank r with
        | ':' :: r =>
          match readValue fuel r with
          | none => none
          | some (v, r) =>
            match skipBlank r with
            | ',' :: r => readMembers fuel (skipBlank r) ((k, v) :: acc)
            | '}' :: r => some (.obj ((k, v) :: acc).reverse, r)
            | _ => none
        | _ => none
    | _ => none

/-- Reads the items of an array after `[`. -/
def readItems : Nat → List Char → List Json → Option (Json × List Char)
  | 0, _, _ => none
  | fuel + 1, cs, acc =>
    match cs with
    | ']' :: r => if acc.isEmpty then some (.arr [], r) else none
    | _ =>
      match readValue fuel cs with
      | none => none
      | some (v, r) =>
        match skipBlank r with
        | ',' :: r => readItems fuel (skipBlank r) (v :: acc)
        | ']' :: r => some (.arr (v :: acc).reverse, r)
        | _ => none
end

/-- Reads a whole text as one JSON value. -/
def parse? (s : String) : Option Json :=
  let cs := s.toList
  match readValue (cs.length + 1) cs with
  | some (v, r) => if (skipBlank r).isEmpty then some v else none
  | none => none

end Multibody.Json
