import Multibody.Text.Duration

/-!
# Instants

A run records when it was stored: an instant on the proleptic Gregorian
calendar, to the nanosecond, with the offset from UTC it was written in.
Instants are ordered by the moment they name, whatever their offsets.

The text form is RFC 3339: `2006-01-02T15:04:05.999999999Z07:00`, the
fraction without trailing zeros and left out when zero, `Z` for a zero offset.
Reading follows the same layout element by element: a four-digit year, then
two-digit month, day, minute and second, a one- or two-digit hour, an
optional fraction of which nine digits count, and `Z` or a `±hh:mm` offset.
A failing element is reported with the part of the text left at that point.
-/

namespace Multibody.Store

/-- A moment, with the UTC offset in seconds its text used. -/
structure Instant where
  unixSeconds : Int := 0
  nanos : Nat := 0
  offset : Int := 0
  deriving Inhabited, BEq

namespace Instant

/-- Whether `a` is strictly later than `b`. -/
def after (a b : Instant) : Bool :=
  a.unixSeconds > b.unixSeconds || (a.unixSeconds == b.unixSeconds && a.nanos > b.nanos)

/-- Days from 1970-01-01 to a civil date. -/
def daysFromCivil (y : Int) (m d : Nat) : Int :=
  let y := if m ≤ 2 then y - 1 else y
  let era := (if y ≥ 0 then y else y - 399) / 400
  let yoe := y - era * 400
  let mp : Int := if m > 2 then (m : Int) - 3 else (m : Int) + 9
  let doy := (153 * mp + 2) / 5 + (d : Int) - 1
  let doe := yoe * 365 + yoe / 4 - yoe / 100 + doy
  era * 146097 + doe - 719468

/-- The civil date of a day count from 1970-01-01. -/
def civilFromDays (z : Int) : Int × Nat × Nat :=
  let z := z + 719468
  let era := (if z ≥ 0 then z else z - 146096) / 146097
  let doe := z - era * 146097
  let yoe := (doe - doe / 1460 + doe / 36524 - doe / 146096) / 365
  let y := yoe + era * 400
  let doy := doe - (365 * yoe + yoe / 4 - yoe / 100)
  let mp := (5 * doy + 2) / 153
  let d := (doy - (153 * mp + 2) / 5 + 1).toNat
  let m := (if mp < 10 then mp + 3 else mp - 9).toNat
  ((if m ≤ 2 then y + 1 else y), m, d)

/-- Whether a year is a leap year. -/
def leapYear (y : Int) : Bool := y % 4 == 0 && (y % 100 != 0 || y % 400 == 0)

/-- The days in a month of a year. -/
def daysIn (m : Nat) (y : Int) : Nat :=
  if m == 2 then (if leapYear y then 29 else 28)
  else if m == 4 || m == 6 || m == 9 || m == 11 then 30 else 31

/-- Local date and time fields: year, month, day, hour, minute, second. -/
def fields (t : Instant) : Int × Nat × Nat × Nat × Nat × Nat :=
  let wall := t.unixSeconds + t.offset
  let days := if wall ≥ 0 then wall / 86400 else -((-wall + 86399) / 86400)
  let secs := (wall - days * 86400).toNat
  let (y, m, d) := civilFromDays days
  (y, m, d, secs / 3600, secs / 60 % 60, secs % 60)

/-- A number with at least `w` digits. -/
def padded (w : Nat) (n : Nat) : String :=
  let s := toString n
  String.ofList (List.replicate (w - s.length) '0') ++ s

/-- A year with at least four digits, signed when negative. -/
def yearText (y : Int) : String :=
  if y < 0 then "-" ++ padded 4 y.natAbs else padded 4 y.toNat

/-- Date and time as `2006-01-02 15:04:05`, in the instant's own offset. -/
def dateTimeText (t : Instant) : String :=
  let (y, m, d, hh, mm, ss) := t.fields
  s!"{yearText y}-{padded 2 m}-{padded 2 d} {padded 2 hh}:{padded 2 mm}:{padded 2 ss}"

/-- The offset as `Z` or `±hh:mm`. -/
def offsetText (offset : Int) : String :=
  if offset == 0 then "Z"
  else
    let a := offset.natAbs / 60
    (if offset < 0 then "-" else "+") ++ padded 2 (a / 60) ++ ":" ++ padded 2 (a % 60)

/-- RFC 3339 text with nanoseconds, trailing zeros of the fraction dropped. -/
def rfc3339 (t : Instant) : String :=
  let (y, m, d, hh, mm, ss) := t.fields
  let frac := if t.nanos == 0 then ""
    else "." ++ String.ofList ((padded 9 t.nanos).toList.reverse.dropWhile (· == '0')).reverse
  s!"{yearText y}-{padded 2 m}-{padded 2 d}T{padded 2 hh}:{padded 2 mm}:{padded 2 ss}" ++
    frac ++ offsetText t.offset

/-- The layout RFC 3339 text is read by. -/
def layout : String := "2006-01-02T15:04:05Z07:00"

/-- A reading failure: the element expected and the text left. -/
def cannotParse (value rest elem : List Char) : String :=
  "parsing time " ++ Text.durationQuoted (String.ofList value) ++ " as " ++
    Text.durationQuoted layout ++ ": cannot parse " ++ Text.durationQuoted (String.ofList rest) ++
    " as " ++ Text.durationQuoted (String.ofList elem)

/-- A value out of range. -/
def outOfRange (value : List Char) (what : String) : String :=
  "parsing time " ++ Text.durationQuoted (String.ofList value) ++ ": " ++ what ++ " out of range"

/-- One or two digits (two when `fixed`), their value and the rest. -/
def number? (cs : List Char) (fixed : Bool) : Option (Nat × List Char) :=
  match cs with
  | a :: b :: rest =>
    if !a.isDigit then none
    else if b.isDigit then some ((a.toNat - 48) * 10 + (b.toNat - 48), rest)
    else if fixed then none else some (a.toNat - 48, b :: rest)
  | [a] => if a.isDigit && !fixed then some (a.toNat - 48, []) else none
  | [] => none

/-- Digits as a number. -/
def digitsValue (ds : List Char) : Nat := ds.foldl (fun n c => n * 10 + (c.toNat - 48)) 0

/-- Expects a literal prefix. -/
def expect (value : List Char) (lit : List Char) (rest : List Char) : Except String (List Char) :=
  if rest.take lit.length == lit then .ok (rest.drop lit.length)
  else .error (cannotParse value rest lit)

/-- Reads RFC 3339 text. -/
def parse (text : String) : Except String Instant := do
  let value := text.toList
  -- year: four characters, an optional sign and digits
  if value.length < 4 then throw (cannotParse value value "2006".toList)
  let yearChars := value.take 4
  let (neg, yds) := match yearChars with
    | '-' :: r => (true, r)
    | '+' :: r => (false, r)
    | r => (false, r)
  if yds.isEmpty || !yds.all Char.isDigit then throw (cannotParse value value "2006".toList)
  let year : Int := if neg then -(digitsValue yds : Int) else digitsValue yds
  let rest ← expect value ['-'] (value.drop 4)
  let (month, rest) ← match number? rest true with
    | some (m, r) => if m == 0 || m > 12 then throw (outOfRange value "month") else pure (m, r)
    | none => throw (cannotParse value rest "01".toList)
  let rest ← expect value ['-'] rest
  let (day, rest) ← match number? rest true with
    | some p => pure p
    | none => throw (cannotParse value rest "02".toList)
  let rest ← expect value ['T'] rest
  let (hour, rest) ← match number? rest false with
    | some (h, r) => if h ≥ 24 then throw (outOfRange value "hour") else pure (h, r)
    | none => throw (cannotParse value rest "15".toList)
  let rest ← expect value [':'] rest
  let (minute, rest) ← match number? rest true with
    | some (m, r) => if m ≥ 60 then throw (outOfRange value "minute") else pure (m, r)
    | none => throw (cannotParse value rest "04".toList)
  let rest ← expect value [':'] rest
  let (second, rest) ← match number? rest true with
    | some (s, r) => if s ≥ 60 then throw (outOfRange value "second") else pure (s, r)
    | none => throw (cannotParse value rest "05".toList)
  let (nanos, rest) := match rest with
    | p :: d :: more =>
      if (p == '.' || p == ',') && d.isDigit then
        let ds := (d :: more).takeWhile Char.isDigit
        let kept := ds.take 9
        (digitsValue kept * Nat.pow 10 (9 - kept.length), more.drop (ds.length - 1))
      else (0, rest)
    | _ => (0, rest)
  let (offset, rest) ← match rest with
    | 'Z' :: r => pure ((0 : Int), r)
    | s :: h1 :: h2 :: ':' :: m1 :: m2 :: r =>
      match number? [h1, h2] true, number? [m1, m2] true with
      | some (hh, _), some (mm, _) =>
        if hh > 24 then throw (outOfRange value "time zone offset hour")
        else if mm > 60 then throw (outOfRange value "time zone offset minute")
        else if s == '+' then pure (((hh * 60 + mm) * 60 : Nat) , r)
        else if s == '-' then pure (-(((hh * 60 + mm) * 60 : Nat) : Int), r)
        else throw (cannotParse value rest "Z07:00".toList)
      | _, _ => throw (cannotParse value rest "Z07:00".toList)
    | _ => throw (cannotParse value rest "Z07:00".toList)
  if !rest.isEmpty then
    throw ("parsing time " ++ Text.durationQuoted text ++ ": extra text: " ++
      Text.durationQuoted (String.ofList rest))
  if day == 0 || day > daysIn month year then
    throw ("parsing time " ++ Text.durationQuoted text ++ ": day out of range")
  let secs := daysFromCivil year month day * 86400 + (hour * 3600 + minute * 60 + second : Nat) - offset
  return { unixSeconds := secs, nanos, offset }

end Instant

end Multibody.Store
