import Multibody.Decimal.Shortest

/-!
# Reading numbers

Decimal text becomes the nearest double, ties to even, through the exact
quotient of `Binary64.roundQuotient`.  `readFloat` takes the number syntax of
the lab's option strings and data files: an optional sign, digits with an
optional point and exponent, hexadecimal significands with a binary exponent,
and the words `inf`, `infinity` and `nan` in any case.  An underscore may
separate two digits, or a base prefix and a digit.
-/

namespace Multibody.Decimal

/-- The double nearest to `digits · 10 ^ exp10`, signed by `neg`; magnitudes
far outside the double range go straight to infinity or zero. -/
def ofDecimal (neg : Bool) (digits : Nat) (exp10 : Int) : Float :=
  if digits = 0 then wordOf neg 0 0
  else
    let size : Int := (digitCount digits : Int) + exp10
    if size > 310 then wordOf neg 2047 0
    else if size < -330 then wordOf neg 0 0
    else if exp10 ≥ 0 then roundQuotient neg (digits * Nat.pow 10 exp10.toNat) 1 0
    else roundQuotient neg digits (Nat.pow 10 (-exp10).toNat) 0

/-- Why a text is not a number. -/
inductive ReadError where
  /-- the text does not follow the number syntax -/
  | malformed
  /-- the number is beyond the largest finite double -/
  | outOfRange
  deriving Repr, BEq, DecidableEq

/-- Value of a hexadecimal digit. -/
def hexValue? (c : Char) : Option Nat :=
  if '0' ≤ c ∧ c ≤ '9' then some (c.toNat - '0'.toNat)
  else if 'a' ≤ c ∧ c ≤ 'f' then some (c.toNat - 'a'.toNat + 10)
  else if 'A' ≤ c ∧ c ≤ 'F' then some (c.toNat - 'A'.toNat + 10)
  else none

/-- Digits of a significand in `base`: the integer they spell, how many
digits follow the point, whether any digit was seen, and the rest of the text.
Underscores are skipped when `underscores` holds and recorded in `sawUnderscore`. -/
structure Significand where
  value : Nat := 0
  afterPoint : Nat := 0
  anyDigit : Bool := false
  sawPoint : Bool := false
  sawUnderscore : Bool := false

/-- Reads the significand digits of `cs` in `base` (10 or 16). -/
def readSignificand (base : Nat) : List Char → Significand → Significand × List Char
  | [], acc => (acc, [])
  | c :: rest, acc =>
    if c = '_' then readSignificand base rest { acc with sawUnderscore := true }
    else if c = '.' then
      if acc.sawPoint then (acc, c :: rest)
      else readSignificand base rest { acc with sawPoint := true }
    else
      match hexValue? c with
      | some d =>
        if d < base then
          readSignificand base rest
            { acc with value := acc.value * base + d, anyDigit := true,
                       afterPoint := if acc.sawPoint then acc.afterPoint + 1 else acc.afterPoint }
        else (acc, c :: rest)
      | none => (acc, c :: rest)

/-- Reads an optionally signed decimal exponent that must take the whole rest. -/
def readExponent (cs : List Char) : Option Int :=
  let (neg, ds) := match cs with
    | '+' :: r => (false, r)
    | '-' :: r => (true, r)
    | r => (false, r)
  let ds := ds.filter (· ≠ '_')
  if ds.isEmpty || !ds.all Char.isDigit then none
  else
    let n := ds.foldl (fun a c => a * 10 + (c.toNat - '0'.toNat)) 0
    some (if neg then -(n : Int) else n)

/-- Whether every underscore of a numeral stands between two digits, or
between a base prefix and a digit; the sign, if any, is skipped. -/
def underscoresOk (cs : List Char) : Bool :=
  let cs := match cs with
    | '+' :: r => r
    | '-' :: r => r
    | r => r
  let (hex, start, body) := match cs with
    | '0' :: b :: r =>
      if b.toLower = 'x' then (true, '0', r)
      else if b.toLower = 'b' ∨ b.toLower = 'o' then (false, '0', r)
      else (false, '^', cs)
    | r => (false, '^', r)
  -- `saw` is the class of the last character: digit `0`, underscore, or other
  let rec go : Char → List Char → Bool
    | saw, [] => saw != '_'
    | saw, c :: r =>
      if c.isDigit || (hex && (hexValue? c).isSome) then go '0' r
      else if c = '_' then saw = '0' && go '_' r
      else if saw = '_' then false
      else go '!' r
  go start body

/-- Reads a whole text as a double. -/
def readFloat (s : String) : Except ReadError Float :=
  let cs := s.toList
  let (neg, body) := match cs with
    | '+' :: r => (false, r)
    | '-' :: r => (true, r)
    | r => (false, r)
  let word := String.ofList (body.map Char.toLower)
  if word = "inf" ∨ word = "infinity" then .ok (wordOf neg 2047 0)
  else if word = "nan" then .ok (Float.ofBits 0x7FF8000000000001)
  else
    let (hex, digits) := match body with
      | '0' :: 'x' :: r => (true, r)
      | '0' :: 'X' :: r => (true, r)
      | r => (false, r)
    let (sig, rest) := readSignificand (if hex then 16 else 10) digits {}
    if !sig.anyDigit then .error .malformed
    else if body.contains '_' && !underscoresOk body then .error .malformed
    else
      if hex then
        match rest with
        | c :: r =>
          if c = 'p' ∨ c = 'P' then
            match readExponent r with
            | some e =>
              let shift := e - 4 * (sig.afterPoint : Int)
              let x := roundQuotient neg sig.value 1 shift
              if isInf x then .error .outOfRange else .ok x
            | none => .error .malformed
          else .error .malformed
        | [] => .error .malformed
      else
        let exp : Option Int := match rest with
          | [] => some 0
          | c :: r => if c = 'e' ∨ c = 'E' then readExponent r else none
        match exp with
        | none => .error .malformed
        | some e =>
          let x := ofDecimal neg sig.value (e - sig.afterPoint)
          if isInf x then .error .outOfRange else .ok x

end Multibody.Decimal
