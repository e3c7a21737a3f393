import Multibody.Decimal.Binary64

/-!
# Shortest decimal of a double

A positive double `m · 2 ^ e` stands for every real of its rounding interval:
half way to each neighbour, both ends included when `m` is even.  The shortest
decimal is the decimal with the fewest significant digits inside that interval;
of two with that many digits the nearer to the double wins.  Everything here is
exact `Nat` arithmetic on the significand and the exponent.
-/

namespace Multibody.Decimal

/-- A decimal `digits · 10 ^ exp10`; `digits` has no trailing zero unless it is
zero. -/
structure Digits where
  digits : Nat
  exp10 : Int
  deriving Repr, BEq

/-- The decimal digits of a natural number, most significant first. -/
def digitList (n : Nat) : List Nat :=
  (Nat.toDigits 10 n).map fun c => c.toNat - '0'.toNat

/-- Number of decimal digits of `n` (one for zero). -/
def digitCount (n : Nat) : Nat := (Nat.toDigits 10 n).length

/-- Removes trailing zeros, moving them into the exponent. -/
def Digits.normalize (d : Digits) : Digits :=
  go d.digits d.exp10 (digitCount d.digits)
where
  /-- One step per removed zero; `fuel` bounds the digit count. -/
  go (n : Nat) (e : Int) : Nat → Digits
    | 0 => ⟨n, e⟩
    | fuel + 1 => if n ≠ 0 ∧ n % 10 = 0 then go (n / 10) (e + 1) fuel else ⟨n, e⟩

/-- The number `a · 10 ^ p` as a pair scaled to a common denominator: the factors by which
a numerator over `den` and a candidate on the grid `10 ^ p` are compared. -/
def gridScale (den : Nat) (p : Int) : Nat × Nat :=
  if p ≥ 0 then (Nat.pow 10 p.toNat * den, 1) else (den, Nat.pow 10 (-p).toNat)

/-- The decimal exponent `k` with `10 ^ k ≤ num / den < 10 ^ (k + 1)`,
found from a floating estimate and corrected by exact comparisons. -/
def decimalExponent (num den : Nat) (estimate : Int) : Int :=
  let atLeast (k : Int) : Bool :=
    if k ≥ 0 then num ≥ den * Nat.pow 10 k.toNat else num * Nat.pow 10 (-k).toNat ≥ den
  let rec fix (k : Int) : Nat → Int
    | 0 => k
    | fuel + 1 =>
      if !atLeast k then fix (k - 1) fuel
      else if atLeast (k + 1) then fix (k + 1) fuel
      else k
  fix estimate 8

/-- The shortest decimal inside the rounding interval of a positive double
`mant · 2 ^ exp`, with `estimate` a guess at its decimal exponent. -/
def shortestOf (mant : Nat) (exp : Int) (estimate : Int) : Digits :=
  -- interval ends and value, all times 2 ^ (exp - 2)
  let narrowBelow := mant = Nat.pow 2 52 ∧ exp > -1074
  let lo := if narrowBelow then 4 * mant - 1 else 4 * mant - 2
  let hi := 4 * mant + 2
  let v := 4 * mant
  let sh := exp - 2
  let (lo, hi, v, den) :=
    if sh ≥ 0 then (lo * Nat.pow 2 sh.toNat, hi * Nat.pow 2 sh.toNat, v * Nat.pow 2 sh.toNat, 1)
    else (lo, hi, v, Nat.pow 2 (-sh).toNat)
  let inclusive := mant % 2 = 0
  let k := decimalExponent v den estimate
  let inside (c : Nat) (a b : Nat) : Bool :=
    let x := c * a
    (if inclusive then x * 1 ≥ lo * b else x > lo * b) &&
      (if inclusive then x ≤ hi * b else x < hi * b)
  let rec search : Nat → Nat → Digits
    | 0, _ => ⟨mant, exp⟩
    | fuel + 1, n =>
      let p : Int := k + 1 - n
      let (a, b) := gridScale den p
      -- candidates c · 10 ^ p = c · a / b over the denominator den
      let c := (v * b) / a
      let lowIn := inside c a b
      let highIn := inside (c + 1) a b
      if lowIn && highIn then
        let dLow := v * b - c * a
        let dHigh := (c + 1) * a - v * b
        let pick :=
          if dLow < dHigh then c else if dHigh < dLow then c + 1
          else if c % 2 = 0 then c else c + 1
        (Digits.normalize ⟨pick, p⟩)
      else if lowIn then Digits.normalize ⟨c, p⟩
      else if highIn then Digits.normalize ⟨c + 1, p⟩
      else search fuel (n + 1)
  search 17 1

/-- The shortest decimal of a finite double together with its sign; zero is
`0 · 10 ^ 0`. -/
def Digits.shortest (b : Binary) : Digits :=
  if b.mant = 0 then ⟨0, 0⟩ else
    let x := (Float.ofNat b.mant).scaleB b.exp
    let est : Int :=
      if x > 0 && x < 1.0e308 then (Float.floor (Float.log10 x)).toInt64.toInt
      else if x ≥ 1.0e308 then 308 else -320
    shortestOf b.mant b.exp est

end Multibody.Decimal
