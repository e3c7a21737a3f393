import Multibody.Numeric.Circular
import Multibody.Geometry.Vec3

/-!
# Spectra of sampled series

The discrete Fourier transform of a series whose length is a power of two,
by the recursive radix-2 split into even and odd samples; the power spectrum
of a series as the magnitudes of the first half of the transform of its
mean-removed samples, cut to the largest power of two; and the dominant
frequency as the strongest non-constant bin, refined by a parabola through
it and its neighbours.

The series are numbers of any type with the field operations, square roots
and the circular functions; the program runs them on doubles.
-/

namespace Multibody.Analysis

/-- Numbers as the transform uses them besides arithmetic, roots and the
circular functions: the number π, absolute values, and the tests for the
infinite and undefined values that doubles have and exact numbers lack. -/
class TransformNumber (α : Type) where
  pi : α
  abs : α → α
  isInf : α → Bool
  isNaN : α → Bool

instance : TransformNumber Float := ⟨3.141592653589793, Float.abs, Float.isInf, Float.isNaN⟩

/-- The number that counts `n`: the double nearest it, or `n` itself. -/
def ofCount {α : Type} [OfScientific α] (n : Nat) : α := OfScientific.ofScientific n false 0

/-- A complex number as its real and imaginary parts. -/
structure Complex (α : Type := Float) where
  re : α
  im : α
  deriving Inhabited

namespace Complex

variable {α : Type}

/-- The sum of two complex numbers. -/
def add [Add α] (a b : Complex α) : Complex α := ⟨a.re + b.re, a.im + b.im⟩

/-- The difference of two complex numbers. -/
def sub [Sub α] (a b : Complex α) : Complex α := ⟨a.re - b.re, a.im - b.im⟩

/-- The product of two complex numbers. -/
def mul [Add α] [Sub α] [Mul α] (a b : Complex α) : Complex α :=
  ⟨a.re * b.re - a.im * b.im, a.re * b.im + a.im * b.re⟩

/-- The unit complex number at angle `θ`. -/
def unit [CircularFunctions α] (θ : α) : Complex α :=
  ⟨CircularFunctions.cos θ, CircularFunctions.sin θ⟩

/-- The magnitude, as the larger part times `√(1 + r²)` with `r` the ratio of
the smaller part to the larger. -/
def abs [OfScientific α] [Add α] [Mul α] [Div α] [LT α] [DecidableLT α] [BEq α] [SquareRoot α]
    [TransformNumber α] (z : Complex α) : α :=
  let p := TransformNumber.abs z.re
  let q := TransformNumber.abs z.im
  if TransformNumber.isInf p || TransformNumber.isInf q then 1.0 / 0.0
  else if TransformNumber.isNaN p || TransformNumber.isNaN q then 0.0 / 0.0
  else
    let (p, q) := if p < q then (q, p) else (p, q)
    if p == 0.0 then 0.0
    else
      let r := q / p
      p * SquareRoot.sqrt (1.0 + r * r)

end Complex

/-- Whether `n` is a power of two (or zero). -/
def powerOfTwo (n : Nat) : Bool := n &&& (n - 1) == 0

section Transform

variable {α : Type} [OfScientific α] [Add α] [Sub α] [Mul α] [Div α] [Neg α] [Inhabited α]
  [CircularFunctions α] [TransformNumber α]

/-- The transform of a series; `none` when its length is not a power of two.
`fuel` bounds the depth of halving. -/
def fftWith : Nat → Array α → Option (Array (Complex α))
  | 0, data => if data.size ≤ 1 then some (data.map (⟨·, 0.0⟩)) else none
  | fuel + 1, data =>
    let n := data.size
    if n ≤ 1 then some (data.map (⟨·, 0.0⟩))
    else if !powerOfTwo n then none
    else
      let half := n / 2
      let even := (Array.range half).map fun i => data[2 * i]!
      let odd := (Array.range half).map fun i => data[2 * i + 1]!
      match fftWith fuel even, fftWith fuel odd with
      | some fe, some fo =>
        let turns := (Array.range half).map fun k =>
          let w := Complex.unit (-(2.0 * TransformNumber.pi) * ofCount k / ofCount n)
          (fe[k]!.add (w.mul fo[k]!), fe[k]!.sub (w.mul fo[k]!))
        some (turns.map (·.1) ++ turns.map (·.2))
      | _, _ => none

/-- The transform of a series whose length is a power of two. -/
def fft (data : Array α) : Option (Array (Complex α)) := fftWith (data.size + 1) data

end Transform

/-- The largest power of two not above `n`; zero for zero. -/
def floorPow2 (n : Nat) : Nat := if n < 1 then 0 else Nat.pow 2 (Nat.log2 n)

section Spectrum

variable {α : Type} [OfScientific α] [Add α] [Sub α] [Mul α] [Div α] [Neg α] [Inhabited α]
  [LT α] [DecidableLT α] [BEq α] [SquareRoot α] [CircularFunctions α] [TransformNumber α]

/-- The magnitudes of the first half of the transform of the mean-removed
series, cut to the largest power of two; empty below two samples. -/
def powerSpectrum (data : Array α) : Array α :=
  let n := floorPow2 data.size
  if n < 2 then #[]
  else
    let xs := data.extract 0 n
    let mean := xs.foldl (· + ·) 0.0 / ofCount n
    match fft (xs.map (· - mean)) with
    | some f => (f.extract 0 (n / 2)).map Complex.abs
    | none => #[]

/-- The frequency in hertz of the strongest non-constant component of a
series sampled every `dt` seconds; none for fewer than three bins or a
step below or at zero (a step that is not a number passes). -/
def dominantFrequency (data : Array α) (dt : α) : Option α :=
  let ps := powerSpectrum data
  if ps.size < 3 || dt < 0.0 || dt == 0.0 then none
  else
    let n := 2 * ps.size
    let peak := (List.range ps.size).drop 2 |>.foldl (fun p i => if ps[i]! > ps[p]! then i else p) 1
    let bin : α := ofCount peak
    let bin :=
      if peak + 1 < ps.size then
        let a := ps[peak - 1]!
        let b := ps[peak]!
        let c := ps[peak + 1]!
        let d := a - 2.0 * b + c
        if d != 0.0 then bin + 0.5 * (a - c) / d else bin
      else bin
    some (bin / (ofCount n * dt))

end Spectrum

end Multibody.Analysis
