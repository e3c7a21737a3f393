import Multibody.Text.Blank
import Multibody.Text.Case
import Multibody.Decimal.Read

/-!
# Controller options

A controller reads tuning values from an option string: blank-separated
`key=value` words, where a bare word means `key=true`.  Keys are compared in
lower case and a later word overrides an earlier one with the same key.
-/

namespace Multibody.Control

/-- The options of an option string, in key order. -/
def parseOptions (s : String) : List (String × String) :=
  let pairs := (Text.fields s).map fun w =>
    match w.splitOn "=" with
    | [] => (Text.lowerString w, "true")
    | [k] => (Text.lowerString k, "true")
    | k :: rest => (Text.lowerString k, "=".intercalate rest)
  let unique := pairs.foldl (fun acc (k, v) => (acc.filter (·.1 != k)) ++ [(k, v)]) []
  unique.mergeSort fun a b => !(b.1 < a.1)

/-- The double an option holds, the default when absent, or nothing when
its text is not a number or is beyond the double range (the caller then keeps
its value). -/
def optionFloat? (opts : List (String × String)) (key : String) (default : Float) :
    Option Float :=
  match opts.find? (·.1 == key) with
  | none => some default
  | some (_, raw) =>
    match Decimal.readFloat raw with
    | .ok x => some x
    | .error _ => none

end Multibody.Control
