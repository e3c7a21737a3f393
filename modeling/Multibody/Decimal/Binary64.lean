/-!
# Binary64 words as exact numbers

A finite double is `± m · 2 ^ e` with an integer significand `m`.  This module
splits a `Float` into those parts and builds the nearest `Float` of an exact
positive rational, ties to the even significand.  Both directions work on the
bit pattern with `Nat` arithmetic only, so the text of a number never depends
on a runtime printer.
-/

namespace Multibody.Decimal

/-- The 52 fraction bits of a word. -/
def fractionBits (bits : Nat) : Nat := bits % Nat.pow 2 52

/-- The 11 exponent bits of a word. -/
def exponentBits (bits : Nat) : Nat := (bits / Nat.pow 2 52) % Nat.pow 2 11

/-- The sign bit of a word. -/
def signBit (bits : Nat) : Bool := decide (Nat.pow 2 63 ≤ bits)

/-- A finite double written as `(-1)^neg · mant · 2 ^ exp`. -/
structure Binary where
  neg : Bool
  mant : Nat
  exp : Int
  deriving Repr, BEq

/-- Splits a finite double into sign, significand and exponent; `none` for
NaN and the infinities.  Subnormals keep the smallest exponent `-1074`. -/
def Binary.ofFloat? (x : Float) : Option Binary :=
  let bits := x.toBits.toNat
  let e := exponentBits bits
  let f := fractionBits bits
  if e = 2047 then none
  else if e = 0 then some ⟨signBit bits, f, -1074⟩
  else some ⟨signBit bits, Nat.pow 2 52 + f, (e : Int) - 1075⟩

/-- Whether the word is a NaN. -/
def isNaN (x : Float) : Bool :=
  exponentBits x.toBits.toNat = 2047 && fractionBits x.toBits.toNat ≠ 0

/-- Whether the word is one of the two infinities. -/
def isInf (x : Float) : Bool :=
  exponentBits x.toBits.toNat = 2047 && fractionBits x.toBits.toNat = 0

/-- Whether the value is neither NaN nor infinite. -/
def isFinite (x : Float) : Bool := exponentBits x.toBits.toNat ≠ 2047

/-- The sign bit of a double, so that `-0.0` counts as negative. -/
def signOf (x : Float) : Bool := signBit x.toBits.toNat

/-- The magnitude of a finite double truncated toward zero. -/
def Binary.truncMag (b : Binary) : Nat :=
  if b.exp ≥ 0 then b.mant * Nat.pow 2 b.exp.toNat else b.mant / Nat.pow 2 (-b.exp).toNat

/-- A double truncated toward zero to a 64-bit integer; out of that range, or
NaN, it is the lowest 64-bit integer, as the processor's conversion gives. -/
def truncInt (x : Float) : Int :=
  match Binary.ofFloat? x with
  | none => -9223372036854775808
  | some b =>
    let v : Int := if b.neg then -(b.truncMag : Int) else b.truncMag
    if -9223372036854775808 ≤ v ∧ v < 9223372036854775808 then v else -9223372036854775808

/-- The word with the given sign, exponent field and fraction. -/
def wordOf (neg : Bool) (e f : Nat) : Float :=
  Float.ofBits (UInt64.ofNat ((if neg then Nat.pow 2 63 else 0) + e * Nat.pow 2 52 + f))

/-- The floor of `log₂ n` for positive `n`, and `0` for `0`. -/
def log2 (n : Nat) : Nat := Nat.log2 n

/-- Integer division rounding to nearest, a tie going to the even quotient. -/
def divRoundEven (n d : Nat) : Nat :=
  let q := n / d
  let r := n % d
  if 2 * r > d then q + 1
  else if 2 * r < d then q
  else if q % 2 = 0 then q else q + 1

/-- The double nearest to `num / den · 2 ^ shift`, ties to even, signed by
`neg`.  Values beyond the largest finite double become infinite and values
below half the smallest subnormal become zero. -/
def roundQuotient (neg : Bool) (num den : Nat) (shift : Int) : Float :=
  if num = 0 ∨ den = 0 then wordOf neg 0 0
  else
    -- the binary exponent `b` with `2 ^ b ≤ num / den · 2 ^ shift < 2 ^ (b + 1)`
    let approx : Int := (log2 num : Int) - (log2 den : Int) + shift
    let ge (b : Int) : Bool :=
      -- num / den · 2 ^ shift ≥ 2 ^ b
      let t := shift - b
      if t ≥ 0 then num * Nat.pow 2 t.toNat ≥ den else num ≥ den * Nat.pow 2 (-t).toNat
    let b := if ge approx then approx else approx - 1
    -- significand step: 2 ^ (b - 52) for normals, 2 ^ -1074 below
    let q : Int := if b < -1022 then -1074 else b - 52
    let t := shift - q
    let m :=
      if t ≥ 0 then divRoundEven (num * Nat.pow 2 t.toNat) den
      else divRoundEven num (den * Nat.pow 2 (-t).toNat)
    if m = 0 then wordOf neg 0 0
    else
      -- rounding may carry into the next binade
      let (m, q) := if m = Nat.pow 2 53 then (Nat.pow 2 52, q + 1) else (m, q)
      if m < Nat.pow 2 52 then wordOf neg 0 m
      else
        let field := q + 1075
        if field ≥ 2047 then wordOf neg 2047 0
        else wordOf neg field.toNat (m - Nat.pow 2 52)

end Multibody.Decimal
