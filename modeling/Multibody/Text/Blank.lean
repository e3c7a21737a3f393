/-!
# Blank characters and fields

The Unicode white-space characters and the split of a text into the
non-empty runs between them.
-/

namespace Multibody.Text

/-- White space: tab, line feed, vertical tab, form feed, carriage return,
space, next line, no-break space, and the other Unicode spaces and line
separators. -/
def isBlank (c : Char) : Bool :=
  let n := c.toNat
  n = 0x09 || n = 0x0A || n = 0x0B || n = 0x0C || n = 0x0D || n = 0x20 || n = 0x85 ||
    n = 0xA0 || n = 0x1680 || (0x2000 ≤ n && n ≤ 0x200A) || n = 0x2028 || n = 0x2029 ||
    n = 0x202F || n = 0x205F || n = 0x3000

/-- The maximal runs of non-blank characters, in order. -/
def fields (s : String) : List String :=
  let rec go : List Char → List Char → List String → List String
    | [], cur, acc => (if cur.isEmpty then acc else String.ofList cur.reverse :: acc).reverse
    | c :: cs, cur, acc =>
      if isBlank c then go cs [] (if cur.isEmpty then acc else String.ofList cur.reverse :: acc)
      else go cs (c :: cur) acc
  go s.toList [] []

end Multibody.Text
