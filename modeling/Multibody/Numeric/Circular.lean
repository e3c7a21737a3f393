import Multibody.Decimal.Binary64

/-!
# Sine and cosine

Double-precision sine and cosine by octant reduction and two minimax
polynomials on `[-π/4, π/4]`.  Below `2 ^ 29` the argument is reduced with
`π/4` split into three doubles whose products with the octant count are exact;
above it the reduction multiplies the significand by enough binary digits of
`4/π` (Payne–Hanek), which are computed here from Machin's formula.  The
coefficients are fixed bit patterns, so every result is determined to the
last bit.
-/

namespace Multibody.Circular

/-- A double from its bit pattern. -/
def bitsFloat (n : UInt64) : Float := Float.ofBits n

/-- Sine polynomial coefficients, highest degree first. -/
def sinCoeffs : Array Float := #[bitsFloat 0x3de5d8fd1fd19ccd, bitsFloat 0xbe5ae5e5a9291f5d,
  bitsFloat 0x3ec71de3567d48a1, bitsFloat 0xbf2a01a019bfdf03, bitsFloat 0x3f8111111110f7d0,
  bitsFloat 0xbfc5555555555548]

/-- Cosine polynomial coefficients, highest degree first. -/
def cosCoeffs : Array Float := #[bitsFloat 0xbda8fa49a0861a9b, bitsFloat 0x3e21ee9d7b4e3f05,
  bitsFloat 0xbe927e4f7eac4bc6, bitsFloat 0x3efa01a019c844f5, bitsFloat 0xbf56c16c16c14f91,
  bitsFloat 0x3fa555555555554b]

/-- The three parts of `π/4`: the first two have trailing zero bits so that
their products with an octant count below `2 ^ 30` are exact. -/
def pi4a : Float := bitsFloat 0x3fe921fb40000000
def pi4b : Float := bitsFloat 0x3e64442d00000000
def pi4c : Float := bitsFloat 0x3ce8469898cc5170

/-- The ratio `4/π` rounded to a double. -/
def fourOverPi : Float := bitsFloat 0x3ff45f306dc9c883

/-- The angle `π/4` rounded to a double. -/
def quarterPi : Float := bitsFloat 0x3fe921fb54442d18

/-- Below this magnitude the three-part reduction is exact enough. -/
def reduceThreshold : Float := 536870912.0

/-- The number `arctan (1/k) · 2 ^ bits`, truncated, from its alternating series; `terms`
bounds the number of terms. -/
def arctanInv (k bits terms : Nat) : Int :=
  let scale : Nat := Nat.pow 2 bits
  let rec go : Nat → Nat → Nat → Int → Int
    | 0, _, _, acc => acc
    | fuel + 1, n, pow, acc =>
      -- pow = k ^ (2n+1)
      let term : Int := (scale / (pow * (2 * n + 1)) : Nat)
      if term = 0 then acc
      else go fuel (n + 1) (pow * k * k) (if n % 2 = 0 then acc + term else acc - term)
  go terms 0 k 0

/-- The integer `⌊4/π · 2 ^ (64 · 19)⌋` from Machin's formula `π = 16 atan(1/5) - 4 atan(1/239)`,
carried with 64 guard bits. -/
def fourOverPiFixed : Nat :=
  let bits := 64 * 20 + 64
  let piScaled : Int := 16 * arctanInv 5 bits 2000 - 4 * arctanInv 239 bits 2000
  (4 * Nat.pow 2 (bits + 64 * 19)) / piScaled.toNat

/-- The binary digits of `4/π` in twenty 64-bit words, the integer part first:
`4/π = Σ word i · 2 ^ (-64 i)`. -/
def fourOverPiWords : Array Nat :=
  (Array.range 20).map fun i => (fourOverPiFixed / Nat.pow 2 (64 * (19 - i))) % Nat.pow 2 64

/-- Word `i` of `4/π`, zero past the end. -/
def fourOverPiWord (i : Nat) : Nat := fourOverPiWords.getD i 0

/-- Count of leading zero bits of a 64-bit word. -/
def leadingZeros64 (n : Nat) : Nat := if n = 0 then 64 else 63 - Nat.log2 n

/-- Payne–Hanek reduction of a positive `x ≥ π/4`: the octant count modulo 8,
made even, and the remaining angle. -/
def reduceLarge (x : Float) : Nat × Float :=
  if x < quarterPi then (0, x) else
  let word := Nat.pow 2 64
  let bits := x.toBits.toNat
  let exp : Int := (Decimal.exponentBits bits : Int) - 1023 - 52
  let ix := Decimal.fractionBits bits + Nat.pow 2 52
  let d := ((exp + 61).toNat) / 64
  let bs := ((exp + 61).toNat) % 64
  let part (i : Nat) : Nat :=
    ((fourOverPiWord i * Nat.pow 2 bs) % word) ||| (fourOverPiWord (i + 1) / Nat.pow 2 (64 - bs))
  let z0 := part d
  let z1 := part (d + 1)
  let z2 := part (d + 2)
  let z2hi := (z2 * ix) / word
  let z1hi := (z1 * ix) / word
  let z1lo := (z1 * ix) % word
  let z0lo := (z0 * ix) % word
  let loSum := z1lo + z2hi
  let lo := loSum % word
  let carry := loSum / word
  let hi := (z0lo + z1hi + carry) % word
  let j := hi / Nat.pow 2 61
  let hi := ((hi * 8) % word) ||| (lo / Nat.pow 2 61)
  let lz := leadingZeros64 hi
  let e := 1023 - (lz + 1)
  let hi := ((hi * Nat.pow 2 (lz + 1)) % word) ||| (lo / Nat.pow 2 (64 - (lz + 1)))
  let hi := hi / Nat.pow 2 12
  let hi := hi ||| (e * Nat.pow 2 52)
  let z := Float.ofBits (UInt64.ofNat hi)
  let (j, z) := if j % 2 = 1 then ((j + 1) % 8, z - 1.0) else (j, z)
  (j, z * quarterPi)

/-- Octant count modulo 8 (made even) and reduced angle of a non-negative `x`. -/
def reduce (x : Float) : Nat × Float :=
  if x ≥ reduceThreshold then reduceLarge x
  else
    let j := (x * fourOverPi).toUInt64.toNat
    let y := Float.ofNat j
    let (j, y) := if j % 2 = 1 then (j + 1, y + 1.0) else (j, y)
    (j % 8, ((x - y * pi4a) - y * pi4b) - y * pi4c)

/-- The sine polynomial at the reduced angle `z`. -/
def sinPoly (z : Float) : Float :=
  let zz := z * z
  let c := sinCoeffs
  z + z * zz * ((((((c.getD 0 0.0 * zz) + c.getD 1 0.0) * zz + c.getD 2 0.0) * zz + c.getD 3 0.0) * zz + c.getD 4 0.0) * zz + c.getD 5 0.0)

/-- The cosine polynomial at the reduced angle `z`. -/
def cosPoly (z : Float) : Float :=
  let zz := z * z
  let c := cosCoeffs
  1.0 - 0.5 * zz + zz * zz *
    ((((((c.getD 0 0.0 * zz) + c.getD 1 0.0) * zz + c.getD 2 0.0) * zz + c.getD 3 0.0) * zz + c.getD 4 0.0) * zz + c.getD 5 0.0)

/-- Sine; `±0` and NaN are returned as they are, an infinity gives NaN. -/
def sin (x : Float) : Float :=
  if x == 0.0 || x.isNaN then x
  else if x.isInf then 0.0 / 0.0
  else
    let (neg, ax) := if x < 0.0 then (true, -x) else (false, x)
    let (j, z) := reduce ax
    let (neg, j) := if j > 3 then (!neg, j - 4) else (neg, j)
    let y := if j == 1 || j == 2 then cosPoly z else sinPoly z
    if neg then -y else y

/-- Cosine; NaN and the infinities give NaN. -/
def cos (x : Float) : Float :=
  if x.isNaN || x.isInf then 0.0 / 0.0
  else
    let ax := x.abs
    let (j, z) := reduce ax
    let (neg, j) := if j > 3 then (true, j - 4) else (false, j)
    let neg := if j > 1 then !neg else neg
    let y := if j == 1 || j == 2 then sinPoly z else cosPoly z
    if neg then -y else y

end Multibody.Circular

namespace Multibody

/-- Numbers that have the circular functions.  The closed-form models are
written over any such numbers: doubles take `Circular.sin` and `Circular.cos`,
so that the program's results are the ones above to the last bit. -/
class CircularFunctions (α : Type) where
  sin : α → α
  cos : α → α

instance : CircularFunctions Float := ⟨Circular.sin, Circular.cos⟩

end Multibody
