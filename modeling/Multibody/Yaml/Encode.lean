import Multibody.Yaml.Decode
import Multibody.Yaml.Emit

/-!
# Writing values of unknown type

A `Value` is written as the scalar or collection it holds: null as `null`,
numbers in their shortest form, strings as `Piece.ofString` chooses.  Mapping
keys are sorted in natural order: numbers by value (before other kinds), and
strings character by character with letters after other characters and runs
of digits compared by their number, so `a2` comes before `a10`.
-/

namespace Multibody.Yaml

/-- A letter, as key ordering reads letters: ASCII letters and the letters of
other scripts. -/
def isLetterChar (c : Char) : Bool :=
  let n := c.toNat
  c.isAlpha || (n ≥ 0xC0 && n != 0xD7 && n != 0xF7 &&
    !(0x2000 ≤ n && n ≤ 0x2BFF) && !(0x3000 ≤ n && n ≤ 0x303F) && !(0xFF00 ≤ n && n ≤ 0xFF20) &&
    !(0xE000 ≤ n && n ≤ 0xF8FF))

/-- The number spelled by the run of digits starting at `i`, and where the
run ends. -/
def digitRun (cs : Array Char) (i : Nat) (start : Int) : Int × Nat :=
  let run := (cs.extract i cs.size).toList.takeWhile Char.isDigit
  (run.foldl (fun acc c => acc * 10 + (c.toNat - '0'.toNat : Nat)) start, i + run.length)

/-- Natural order of strings: equal characters are skipped; two letters
compare as characters; a letter comes after a non-letter, unless a digit
precedes, where it comes first; runs of digits compare by number, then by
length. -/
def naturalLess (a b : String) : Bool :=
  let ar := a.toList.toArray
  let br := b.toList.toArray
  let n := min ar.size br.size
  let rec go : Nat → Nat → Bool → Bool
    | 0, _, _ => ar.size < br.size
    | fuel + 1, i, digits =>
      if i ≥ n then ar.size < br.size
      else
        let x := ar[i]!
        let y := br[i]!
        if x == y then go fuel (i + 1) x.isDigit
        else
          let xl := isLetterChar x
          let yl := isLetterChar y
          if xl && yl then x < y
          else if xl || yl then (if digits then xl else yl)
          else
            -- a zero after a nonzero digit run counts as part of the number
            let seeded := (x == '0' || y == '0') &&
              ((List.range i).reverse.takeWhile (fun j => ar[j]!.isDigit)).any (fun j => ar[j]! != '0')
            let start : Int := if seeded then 1 else 0
            let (an, ai) := digitRun ar i start
            let (bn, bi) := digitRun br i start
            if an != bn then an < bn
            else if ai != bi then ai < bi
            else x < y
  go (n + 1) 0 false

/-- The order of value kinds among mapping keys that are not both numbers or
both strings. -/
def Value.kindRank : Value → Nat
  | .bool _ => 1
  | .int _ => 2
  | .uint _ => 11
  | .float _ => 14
  | .null => 20
  | .map _ => 21
  | .seq _ => 23
  | .str _ => 24

/-- A key's numeric value: numbers, and booleans as 0 and 1. -/
def Value.keyNumber? : Value → Option Float
  | .bool b => some (if b then 1.0 else 0.0)
  | .int i => some (Float.ofInt i)
  | .uint n => some n.toFloat
  | .float x => some x
  | _ => none

/-- Natural order of mapping keys. -/
def keyLess (a b : Value) : Bool :=
  match a.keyNumber?, b.keyNumber? with
  | some x, some y =>
    if x != y then x < y
    else if a.kindRank != b.kindRank then a.kindRank < b.kindRank
    else match a, b with
      | .int i, .int j => i < j
      | .uint i, .uint j => i < j
      | .bool p, .bool q => !p && q
      | _, _ => false
  | _, _ =>
    match a, b with
    | .str s, .str t => naturalLess s t
    | _, _ => a.kindRank < b.kindRank

/-- Pairs sorted by key in natural order. -/
def sortPairs {α : Type} (pairs : List (Value × α)) : List (Value × α) :=
  pairs.mergeSort fun p q => !keyLess q.1 p.1

mutual

/-- The document of a value. -/
def Value.toPiece : Value → Piece
  | .null => .scalar "null" .plain
  | .bool b => Piece.ofBool b
  | .int i => Piece.ofInt i
  | .uint n => .scalar (toString n) .plain
  | .float x => Piece.ofFloat x
  | .str s => Piece.ofString s
  | .seq items => .seq (Value.piecesOf items)
  | .map pairs => .map ((sortPairs (Value.pairPieces pairs)).map (·.2))

/-- The documents of sequence items. -/
def Value.piecesOf : List Value → List Piece
  | [] => []
  | v :: vs => v.toPiece :: Value.piecesOf vs

/-- The documents of mapping pairs, each beside its key. -/
def Value.pairPieces : List (Value × Value) → List (Value × Piece × Piece)
  | [] => []
  | (k, v) :: rest => (k, k.toPiece, v.toPiece) :: Value.pairPieces rest

end

end Multibody.Yaml
