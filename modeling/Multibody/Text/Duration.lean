/-!
# Durations

Durations are whole nanoseconds.  Their text uses the largest fitting units:
below a second one of `ns`, `µs` or `ms` with a decimal fraction (`1.5µs`,
`33ms`), otherwise hours, minutes and seconds (`1h2m3.5s`), with trailing
zeros of the fraction dropped; zero is `0s`.

Reading takes a sign and a sequence of decimal numbers, each with a unit
`ns`, `us` (or `µs`, `μs`), `ms`, `s`, `m` or `h`: `1h30m`, `-1.5s`, `300ms`.
A bare `0` is zero.  Fractions are scaled through a double, so a fraction of
an hour is exact to the nanosecond; totals beyond 64 bits are refused.
-/

namespace Multibody.Text

/-- The fraction `v mod 10^prec` as `.ddd` without trailing zeros (empty for
zero) and the integer part `v / 10^prec`. -/
def fractionText (v prec : Nat) : String × Nat :=
  let frac := v % Nat.pow 10 prec
  let digits := (toString frac).toList
  let digits := List.replicate (prec - digits.length) '0' ++ digits
  let trimmed := (digits.reverse.dropWhile (· = '0')).reverse
  ((if trimmed.isEmpty then "" else "." ++ String.ofList trimmed), v / Nat.pow 10 prec)

/-- The text of a duration of `ns` nanoseconds. -/
def durationText (ns : Int) : String :=
  let u := ns.natAbs
  let sign := if ns < 0 then "-" else ""
  if u = 0 then "0s"
  else if u < 1000000000 then
    let (unit, prec) :=
      if u < 1000 then ("ns", 0) else if u < 1000000 then ("µs", 3) else ("ms", 6)
    let (frac, whole) := fractionText u prec
    sign ++ toString whole ++ frac ++ unit
  else
    let (frac, secs) := fractionText u 9
    let s := toString (secs % 60) ++ frac ++ "s"
    let mins := secs / 60
    if mins = 0 then sign ++ s
    else
      let m := toString (mins % 60) ++ "m" ++ s
      let hours := mins / 60
      if hours = 0 then sign ++ m else sign ++ toString hours ++ "h" ++ m

/-- A text quoted as duration messages quote it: non-ASCII and control
bytes as `\xhh`. -/
def durationQuoted (s : String) : String :=
  let hex := "0123456789abcdef".toList
  let byteText (b : UInt8) : String :=
    "\\x" ++ (hex.getD (b.toNat / 16) '0').toString ++ (hex.getD (b.toNat % 16) '0').toString
  let body := s.toList.foldl (fun acc c =>
    if c.toNat ≥ 0x80 || c.toNat < 0x20 then
      acc ++ String.join ((String.singleton c).toUTF8.toList.map byteText)
    else if c == '"' || c == '\\' then acc ++ "\\" ++ c.toString
    else acc.push c) ""
  "\"" ++ body ++ "\""

/-- Nanoseconds per duration unit. -/
def unitNanos (u : String) : Option Nat :=
  if u == "ns" then some 1
  else if u == "us" || u == "\u00B5s" || u == "\u03BCs" then some 1000
  else if u == "ms" then some 1000000
  else if u == "s" then some 1000000000
  else if u == "m" then some 60000000000
  else if u == "h" then some 3600000000000
  else none

/-- The leading decimal digits of a text as a number below `2^63`, and the
rest; none on overflow. -/
def leadingDigits (cs : List Char) : Option (Nat × List Char) :=
  let ds := cs.takeWhile Char.isDigit
  let v := ds.foldl (fun acc c => acc * 10 + (c.toNat - '0'.toNat)) 0
  if v > Nat.pow 2 63 then none else some (v, cs.drop ds.length)

/-- The leading digits of a fraction, with the power of ten they are scaled
by; digits past the 64-bit range are dropped. -/
def leadingFraction (cs : List Char) : Nat × Float × List Char :=
  let ds := cs.takeWhile Char.isDigit
  let (v, scale, _) := ds.foldl (fun (v, scale, spilled) c =>
    if spilled then (v, scale, spilled)
    else if v > (Nat.pow 2 63 - 1) / 10 then (v, scale, true)
    else
      let y := v * 10 + (c.toNat - '0'.toNat)
      if y > Nat.pow 2 63 then (v, scale, true) else (y, scale * 10.0, false)) (0, 1.0, false)
  (v, scale, cs.drop ds.length)

/-- The message for a duration text that does not read. -/
def invalidDuration (s : String) : String := "time: invalid duration " ++ durationQuoted s

/-- A duration text's sign, `-` or `+`, and the rest. -/
def splitSign (cs : List Char) : Bool × List Char :=
  match cs with
  | '-' :: r => (true, r)
  | '+' :: r => (false, r)
  | r => (false, r)

/-- The fraction after a number, when the text goes on with a point: the
value of its digits, the power of ten they are scaled by, whether it has
digits, and the rest. -/
def fractionPart (cs : List Char) : Nat × Float × Bool × List Char :=
  match cs with
  | '.' :: r =>
    let (f, scale, rest) := leadingFraction r
    (f, scale, rest.length != r.length, rest)
  | _ => (0, 1.0, false, cs)

/-- Reads one element of a duration, a number and its unit, from the start of
`cs`: its nanoseconds and the rest of the text.  `s` is the whole text, for
the messages. -/
def durationElement (s : String) (cs : List Char) : Except String (Nat × List Char) :=
  if cs.head?.any (fun c => !(c == '.' || c.isDigit)) then .error (invalidDuration s)
  else match leadingDigits cs with
    | none => .error (invalidDuration s)
    | some (v, r) =>
      let (f, scale, post, rest) := fractionPart r
      if r.length == cs.length && !post then .error (invalidDuration s)
      else
        let unitChars := rest.takeWhile fun c => !(c == '.' || c.isDigit)
        if unitChars.isEmpty then .error ("time: missing unit in duration " ++ durationQuoted s)
        else match unitNanos (String.ofList unitChars) with
          | none => .error ("time: unknown unit " ++ durationQuoted (String.ofList unitChars) ++
              " in duration " ++ durationQuoted s)
          | some unit =>
            if v > Nat.pow 2 63 / unit then .error (invalidDuration s)
            else
              let w := if f > 0 then v * unit + (f.toFloat * (unit.toFloat / scale)).toUInt64.toNat
                else v * unit
              if w > Nat.pow 2 63 then .error (invalidDuration s)
              else .ok (w, rest.drop unitChars.length)

/-- Reads at most `fuel` elements of a duration one after another, adding
their nanoseconds to `total`. -/
def durationElements (s : String) : Nat → List Char → Nat → Except String Nat
  | 0, _, total => .ok total
  | fuel + 1, cs, total =>
    if cs.isEmpty then .ok total
    else match durationElement s cs with
      | .error e => .error e
      | .ok (w, rest) =>
        if total + w > Nat.pow 2 63 then .error (invalidDuration s)
        else durationElements s fuel rest (total + w)

/-- Reads a duration in nanoseconds.  Every element takes at least one
character, so as many elements as characters are read at most. -/
def parseDuration (s : String) : Except String Int :=
  let (neg, body) := splitSign s.toList
  if body == ['0'] then .ok 0
  else if body.isEmpty then .error (invalidDuration s)
  else match durationElements s body.length body 0 with
    | .error e => .error e
    | .ok total =>
      if neg then .ok (-(total : Int))
      else if total > Nat.pow 2 63 - 1 then .error (invalidDuration s)
      else .ok total

end Multibody.Text
