import Multibody.Decimal.Shortest

/-!
# Number text

The spellings of a double used by the lab's messages, tables and files:

* `positional`: the shortest digits, never an exponent (`0.001`, `1500`);
* `scientific`: the shortest digits as `d.ddde±XX`, at least two exponent digits;
* `general`: `scientific` when the decimal exponent is below `-4` or at least
  `6`, `positional` otherwise;
* `fixed n`: exactly `n` places, the exact value rounded half to even;
* `jsonNumber`: `positional` for magnitudes in `[1e-6, 1e21)`, otherwise
  `scientific` with the exponent's leading zero dropped.

Non-finite values are spelled `NaN`, `+Inf` and `-Inf`.
-/

namespace Multibody.Decimal

/-- The digit string of a decimal and the position of its point:
the value is `0.d₁d₂…dₙ · 10 ^ point`. -/
def Digits.shape (d : Digits) : String × Int :=
  let s := toString d.digits
  (s, (s.length : Int) + d.exp10)

/-- A run of `n` zeros. -/
def zeros (n : Nat) : String := String.ofList (List.replicate n '0')

/-- Spelling of a non-finite double, or `none` for a finite one. -/
def specialText? (x : Float) : Option String :=
  if isNaN x then some "NaN"
  else if isInf x then some (if signOf x then "-Inf" else "+Inf")
  else none

/-- Digits `s` with the point after `point` of them, padded with zeros on
either side, and at least `places` digits after the point. -/
def placeText (s : String) (point : Int) (places : Nat) : String :=
  let n := s.length
  if point ≤ 0 then
    let frac := zeros (-point).toNat ++ s
    let frac := frac ++ zeros (places - frac.length)
    "0." ++ frac
  else if point.toNat ≥ n then
    let intPart := s ++ zeros (point.toNat - n)
    if places = 0 then intPart else intPart ++ "." ++ zeros places
  else
    let intPart := String.ofList (s.toList.take point.toNat)
    let frac := String.ofList (s.toList.drop point.toNat)
    let frac := frac ++ zeros (places - frac.length)
    intPart ++ "." ++ frac

/-- The exponent suffix `e±XX` with at least two digits. -/
def exponentText (e : Int) : String :=
  let mag := toString e.natAbs
  let mag := if mag.length < 2 then "0" ++ mag else mag
  (if e < 0 then "e-" else "e+") ++ mag

/-- Digits as `d.ddd` followed by the exponent, for a digit string and point. -/
def sciText (s : String) (point : Int) : String :=
  let head := String.ofList (s.toList.take 1)
  let tail := String.ofList (s.toList.drop 1)
  let mant := if tail.isEmpty then head else head ++ "." ++ tail
  mant ++ exponentText (point - 1)

/-- Sign prefix of a finite double, `-` also for `-0.0`. -/
def signText (x : Float) : String := if signOf x then "-" else ""

/-- The shortest decimal of a finite double's magnitude. -/
def magnitudeDigits (x : Float) : Digits :=
  match Binary.ofFloat? x with
  | some b => Digits.shortest b
  | none => ⟨0, 0⟩

/-- Shortest digits without an exponent. -/
def positional (x : Float) : String :=
  match specialText? x with
  | some t => t
  | none =>
    let d := magnitudeDigits x
    if d.digits = 0 then signText x ++ "0"
    else
      let (s, p) := d.shape
      signText x ++ placeText s p 0

/-- Shortest digits with an exponent. -/
def scientific (x : Float) : String :=
  match specialText? x with
  | some t => t
  | none =>
    let d := magnitudeDigits x
    if d.digits = 0 then signText x ++ "0e+00"
    else
      let (s, p) := d.shape
      signText x ++ sciText s p

/-- Shortest digits, with an exponent when the decimal exponent is below `-4`
or at least `6`. -/
def general (x : Float) : String :=
  match specialText? x with
  | some t => t
  | none =>
    let d := magnitudeDigits x
    if d.digits = 0 then signText x ++ "0"
    else
      let (s, p) := d.shape
      let e := p - 1
      if e < -4 ∨ e ≥ 6 then signText x ++ sciText s p
      else signText x ++ placeText s p 0

/-- The exact magnitude of a finite double times `10 ^ places`, rounded to an
integer with ties to even. -/
def scaledRound (b : Binary) (places : Nat) : Nat :=
  if b.exp ≥ 0 then b.mant * Nat.pow 2 b.exp.toNat * Nat.pow 10 places
  else divRoundEven (b.mant * Nat.pow 10 places) (Nat.pow 2 (-b.exp).toNat)

/-- Exactly `places` digits after the point, the exact value rounded half to
even; a negative value that rounds to zero keeps its sign. -/
def fixed (places : Nat) (x : Float) : String :=
  match Binary.ofFloat? x with
  | none => (specialText? x).getD "NaN"
  | some b =>
    let r := scaledRound b places
    let s := toString r
    let s := if s.length ≤ places then zeros (places + 1 - s.length) ++ s else s
    let n := s.length
    let intPart := String.ofList (s.toList.take (n - places))
    let frac := String.ofList (s.toList.drop (n - places))
    signText x ++ (if places = 0 then intPart else intPart ++ "." ++ frac)

/-- The text padded with spaces on the left to at least `width` characters. -/
def padLeft (width : Nat) (text : String) : String :=
  String.ofList (List.replicate (width - text.length) ' ') ++ text

/-- A finite double as a JSON number: positional for magnitudes in
`[1e-6, 1e21)` and zero, otherwise scientific with the exponent's leading zero
dropped (`1e-7`, `1e+21`). -/
def jsonNumber (x : Float) : String :=
  let d := magnitudeDigits x
  if d.digits = 0 then signText x ++ "0"
  else
    let (s, p) := d.shape
    let e := p - 1
    if e < -6 ∨ e ≥ 21 then
      let mag := toString e.natAbs
      let head := String.ofList (s.toList.take 1)
      let tail := String.ofList (s.toList.drop 1)
      let mant := if tail.isEmpty then head else head ++ "." ++ tail
      signText x ++ mant ++ (if e < 0 then "e-" else "e+") ++ mag
    else signText x ++ placeText s p 0

end Multibody.Decimal
