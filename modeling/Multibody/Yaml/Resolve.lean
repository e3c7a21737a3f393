import Multibody.Decimal.Read
import Multibody.Yaml.Parser

/-!
# What a plain scalar means

A quoted scalar is always a string.  A plain one is read by its first
character: `~`, `null` and the empty text are null; `true` and `false` (in
three spellings each) are booleans; `.inf`, `-.inf` and `.nan` are the special
doubles; a sign or digit starts an integer — decimal, or with a `0x`, `0o`,
`0b` or leading-`0` octal base, underscores ignored, within 64 bits — or else
a decimal double; a leading point starts a double.  Anything else, including
a number too large for a double, is a string.

Integers above the signed 64-bit range but within the unsigned one are kept
apart, since they only fit unsigned targets.
-/

namespace Multibody.Yaml

/-- A resolved scalar. -/
inductive Scalar where
  | null
  | bool (b : Bool)
  | int (i : Int)
  /-- an integer above the signed 64-bit range -/
  | uint (n : Nat)
  | float (x : Float)
  | str (s : String)
  deriving Inhabited

/-- The short tag of a resolved scalar. -/
def Scalar.tag : Scalar → String
  | .null => "!!null"
  | .bool _ => "!!bool"
  | .int _ => "!!int"
  | .uint _ => "!!int"
  | .float _ => "!!float"
  | .str _ => "!!str"

/-- The value of `ds` as digits in `base`, none when a digit is out of range. -/
def digitsIn (base : Nat) (ds : List Char) : Option Nat :=
  ds.foldlM (fun acc c => (hexDigit? c).bind fun d => if d < base then some (acc * base + d) else none) 0

/-- An unsigned 64-bit number in `base`; digits required. -/
def unsignedIn (base : Nat) (ds : List Char) : Option Nat :=
  if ds.isEmpty then none
  else (digitsIn base ds).bind fun v => if v < Nat.pow 2 64 then some v else none

/-- An unsigned 64-bit number whose base its prefix gives: `0b`, `0o`, `0x`,
a leading `0` for octal, decimal otherwise. -/
def unsignedAuto (cs : List Char) : Option Nat :=
  match cs with
  | [] => none
  | '0' :: b :: r@(_ :: _) =>
    if b == 'b' || b == 'B' then unsignedIn 2 r
    else if b == 'o' || b == 'O' then unsignedIn 8 r
    else if b == 'x' || b == 'X' then unsignedIn 16 r
    else (digitsIn 8 (b :: r)).bind fun v => if v < Nat.pow 2 64 then some v else none
  | '0' :: r => (digitsIn 8 r).bind fun v => if v < Nat.pow 2 64 then some v else none
  | r => unsignedIn 10 r

/-- A sign and its digits. -/
def splitSign (cs : List Char) : Bool × List Char :=
  match cs with
  | '+' :: r => (false, r)
  | '-' :: r => (true, r)
  | r => (false, r)

/-- A signed 64-bit number from an unsigned magnitude. -/
def signedOf (neg : Bool) (u : Nat) : Option Int :=
  if neg then (if u ≤ Nat.pow 2 63 then some (-(u : Int)) else none)
  else if u < Nat.pow 2 63 then some u else none

/-- A signed 64-bit number, base from the prefix. -/
def signedAuto (cs : List Char) : Option Int :=
  let (neg, body) := splitSign cs
  (unsignedAuto body).bind (signedOf neg)

/-- A signed 64-bit number in `base`. -/
def signedIn (base : Nat) (cs : List Char) : Option Int :=
  let (neg, body) := splitSign cs
  (unsignedIn base body).bind (signedOf neg)

/-- Whether a text has the shape of a decimal double: an optional sign,
digits with an optional point and fraction (or a point and digits), and an
optional exponent. -/
def floatShaped (cs : List Char) : Bool :=
  let (_, body) := splitSign cs
  let (ok, rest) := match body with
    | '.' :: r =>
      let ds := r.takeWhile Char.isDigit
      (!ds.isEmpty, r.drop ds.length)
    | r =>
      let ds := r.takeWhile Char.isDigit
      if ds.isEmpty then (false, r)
      else match r.drop ds.length with
        | '.' :: r2 => (true, r2.dropWhile Char.isDigit)
        | r2 => (true, r2)
  ok && match rest with
    | [] => true
    | e :: r =>
      let (_, exp) := splitSign r
      (e == 'e' || e == 'E') && !exp.isEmpty && exp.all Char.isDigit

/-- The named scalars. -/
def namedScalar? (s : String) : Option Scalar :=
  if s == "true" || s == "True" || s == "TRUE" then some (.bool true)
  else if s == "false" || s == "False" || s == "FALSE" then some (.bool false)
  else if s == "" || s == "~" || s == "null" || s == "Null" || s == "NULL" then some .null
  else if s == ".nan" || s == ".NaN" || s == ".NAN" then some (.float (0.0 / 0.0))
  else if s == ".inf" || s == ".Inf" || s == ".INF" || s == "+.inf" || s == "+.Inf" || s == "+.INF" then
    some (.float (1.0 / 0.0))
  else if s == "-.inf" || s == "-.Inf" || s == "-.INF" then some (.float (-1.0 / 0.0))
  else none

/-- A text starting with a sign or digit: an integer, else a double, else an
integer with a binary or octal prefix before its sign; a string otherwise. -/
def numericScalar (s : String) : Scalar :=
  let plain := s.toList.filter (· != '_')
  match signedAuto plain with
  | some i => .int i
  | none =>
  match unsignedAuto plain with
  | some u => .uint u
  | none =>
  let asFloat : Option Float :=
    if floatShaped plain then
      match Decimal.readFloat (String.ofList plain) with
      | .ok x => some x
      | .error _ => none
    else none
  match asFloat with
  | some x => .float x
  | none =>
  let prefixed : Option Scalar := match plain with
    | '0' :: 'b' :: r =>
      match signedIn 2 r with
      | some i => some (.int i)
      | none => (unsignedIn 2 r).map .uint
    | '-' :: '0' :: 'b' :: r => (signedIn 2 ('-' :: r)).map .int
    | _ => none
  let prefixed := prefixed <|> match plain with
    | '0' :: 'o' :: r =>
      match signedIn 8 r with
      | some i => some (.int i)
      | none => (unsignedIn 8 r).map .uint
    | '-' :: '0' :: 'o' :: r => (signedIn 8 ('-' :: r)).map .int
    | _ => none
  prefixed.getD (.str s)

/-- The meaning of a plain scalar. -/
def resolvePlain (s : String) : Scalar :=
  match s.toList with
  | [] => .null
  | c :: _ =>
    let numeric := c == '+' || c == '-' || c.isDigit
    let named := "yYnNtTfFoO~".contains c
    if !(numeric || named || c == '.') then .str s
    else match namedScalar? s with
      | some v => v
      | none =>
        if named then .str s
        else if c == '.' then
          match Decimal.readFloat s with
          | .ok x => .float x
          | .error _ => .str s
        else numericScalar s

namespace Node

/-- What a node means as a scalar: quoted text is a string, plain text is
resolved; a collection reads as null. -/
def scalar? : Node → Scalar
  | .scalar t .plain _ => if t == "<<" then .str t else resolvePlain t
  | .scalar t _ _ => .str t
  | _ => .null

/-- The short tag of a node. -/
def tag : Node → String
  | .scalar t .plain _ => if t == "<<" then "!!merge" else (resolvePlain t).tag
  | .scalar _ _ _ => "!!str"
  | .seq _ _ => "!!seq"
  | .map _ _ => "!!map"

/-- Whether a node is a null scalar. -/
def isNull (n : Node) : Bool := n.tag == "!!null"

end Node

end Multibody.Yaml
