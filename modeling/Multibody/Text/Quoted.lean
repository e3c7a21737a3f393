import Multibody.Text.Printable

/-!
# Quoted text

A string between double quotes as a literal of a C-like language spells it:
the quote and the backslash are escaped, printable characters stand as they
are, and others are written as `\a`, `\b`, `\f`, `\n`, `\r`, `\t`, `\v`, or
as hexadecimal escapes `\xhh`, `\uhhhh` or `\Uhhhhhhhh`.
-/

namespace Multibody.Text

/-- Lower-case hexadecimal digits of `n`, at least `width` of them. -/
def hexDigits (n width : Nat) : String :=
  let ds := Nat.toDigits 16 n
  String.ofList (List.replicate (width - ds.length) '0' ++ ds)

/-- The escaped form of one character. -/
def escapeRune (c : Char) : String :=
  if c = '"' then "\\\""
  else if c = '\\' then "\\\\"
  else if isPrintable c then c.toString
  else
    let n := c.toNat
    match n with
    | 7 => "\\a"
    | 8 => "\\b"
    | 12 => "\\f"
    | 10 => "\\n"
    | 13 => "\\r"
    | 9 => "\\t"
    | 11 => "\\v"
    | _ =>
      if n < 0x20 ∨ n = 0x7F then "\\x" ++ hexDigits n 2
      else if n < 0x10000 then "\\u" ++ hexDigits n 4
      else "\\U" ++ hexDigits n 8

/-- A string in double quotes with escapes. -/
def quoted (s : String) : String :=
  "\"" ++ String.join (s.toList.map escapeRune) ++ "\""

end Multibody.Text
