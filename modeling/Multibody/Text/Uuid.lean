/-!
# Identifiers

Runs are named by version-4 UUIDs: 32 hexadecimal digits in groups of 8, 4,
4, 4 and 12, the version digit `4` and the variant digit `a`.  The lab draws
them from a counter, so the `n`-th identifier of a sequence is always the
same and two members of one sequence always differ (the last group is the
counter itself).
-/

namespace Multibody.Text

/-- The hexadecimal digits of `n`, at least `w` of them. -/
def hexWidth (w n : Nat) : String :=
  let ds := Nat.toDigits 16 n
  String.ofList (List.replicate (w - ds.length) '0' ++ ds)

/-- The identifier with sequence number `n` in the stream `stream`. -/
def uuidOf (stream n : Nat) : String :=
  let h := ((n + 1) * 2654435761 + stream * 40503) % Nat.pow 2 32
  hexWidth 8 h ++ "-" ++ hexWidth 4 (stream % 65536) ++ "-4" ++ hexWidth 3 (h % 4096) ++ "-a" ++
    hexWidth 3 (n / Nat.pow 2 48 % 4096) ++ "-" ++ hexWidth 12 ((n + 1) % Nat.pow 2 48)

/-- Whether a character is a lower-case hexadecimal digit. -/
def isHexLower (c : Char) : Bool := c.isDigit || ('a' ≤ c && c ≤ 'f')

/-- Whether the text starting at a position has the shape of a UUID. -/
def uuidAt (cs : List Char) : Bool :=
  let groups := [8, 4, 4, 4, 12]
  let rec go : List Nat → List Char → Bool
    | [], _ => true
    | [g], cs => (cs.take g).length == g && (cs.take g).all isHexLower
    | g :: gs, cs =>
      (cs.take g).length == g && (cs.take g).all isHexLower && (cs.drop g).head? == some '-' &&
        go gs (cs.drop (g + 1))
  go groups cs

/-- Every UUID in a text replaced by `<id>`. -/
def maskUuids (text : String) : String :=
  let rec go : Nat → List Char → List Char → List Char
    | 0, rest, acc => acc.reverse ++ rest
    | fuel + 1, cs, acc =>
      match cs with
      | [] => acc.reverse
      | c :: rest =>
        if isHexLower c && uuidAt cs then go fuel (cs.drop 36) ("<id>".toList.reverse ++ acc)
        else go fuel rest (c :: acc)
  String.ofList (go (text.length + 1) text.toList [])

end Multibody.Text
