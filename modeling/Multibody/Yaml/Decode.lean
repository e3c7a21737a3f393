import Multibody.Yaml.Resolve
import Multibody.Text.Duration
import Multibody.Text.Quoted

/-!
# Decoding YAML nodes into settings

A node is decoded over a current value: null keeps it, a scalar of a fitting
kind replaces it, and one of the wrong kind is a type error, reported with
the others at the end as `line N: cannot unmarshal TAG VALUE into TYPE`.
Integers fill doubles, doubles fill integers truncated, booleans accept
`yes`/`no`/`on`/`off`, durations take their text form.  A mapping with a
repeated key is refused; values of unknown type decode to `Value`.
-/

namespace Multibody.Yaml

/-- Decoding: type errors so far, and a message that stops decoding. -/
abbrev Decode := StateT (Array String) (Except String)

/-- A decoder of a node over a current value. -/
abbrev Decoder (α : Type) := Node → α → Decode α

/-- The first `n` bytes of a text, a cut character showing as one
replacement character per byte kept. -/
def takeBytes (n : Nat) (s : String) : String :=
  let (out, _, _) := s.toList.foldl (fun (out, used, stopped) c =>
    if stopped then (out, used, stopped)
    else if used + c.utf8Size ≤ n then (out.push c, used + c.utf8Size, false)
    else (out ++ String.ofList (List.replicate (n - used) (Char.ofNat 0xFFFD)), n, true)) ("", 0, false)
  out

/-- A backtick, quoting values in type errors. -/
def backtick : String := (Char.ofNat 0x60).toString

/-- Records that a node cannot decode into `target`. -/
def typeError (n : Node) (target : String) : Decode Unit :=
  let tag := n.tag
  let shown :=
    if tag == "!!seq" || tag == "!!map" then ""
    else
      let v := n.text
      let v := if v.utf8ByteSize > 10 then takeBytes 7 v ++ "..." else v
      " " ++ backtick ++ v ++ backtick
  modify (·.push ("line " ++ toString n.line ++ ": cannot unmarshal " ++ tag ++ shown ++ " into " ++ target))

/-- Whether two nodes count as the same key: the same kind and text. -/
def sameKey : Node → Node → Bool
  | .scalar a _ _, .scalar b _ _ => a == b
  | .seq _ _, .seq _ _ => true
  | .map _ _, .map _ _ => true
  | _, _ => false

/-- Records every key of a mapping that repeats an earlier one; true when
there is none. -/
def uniqueKeys (pairs : List (Node × Node)) : Decode Bool := do
  let keys := pairs.map (·.1)
  let mut ok := true
  for i in [0:keys.length] do
    for j in [i + 1:keys.length] do
      let ki := keys[i]!
      let kj := keys[j]!
      if sameKey ki kj then
        ok := false
        modify (·.push ("line " ++ toString kj.line ++ ": mapping key " ++ Text.quoted kj.text ++
          " already defined at line " ++ toString ki.line))
  return ok

/-- Decodes a scalar through `conv`; collections and unfitting scalars are
type errors. -/
def scalarWith {α : Type} (target : String) (conv : Node → Scalar → Option α) : Decoder α := fun n cur =>
  match n with
  | .scalar _ _ _ =>
    match n.scalar? with
    | .null => pure cur
    | v => match conv n v with
      | some a => pure a
      | none => do
        typeError n target
        pure cur
  | .seq _ _ => do
    typeError n target
    pure cur
  | .map pairs _ => do
    if ← uniqueKeys pairs then typeError n target
    pure cur

/-- A double. -/
def decodeFloat : Decoder Float := scalarWith "float64" fun _ v =>
  match v with
  | .int i => some (Float.ofInt i)
  | .uint u => some u.toFloat
  | .float x => some x
  | _ => none

/-- An integer. -/
def decodeInt : Decoder Int := scalarWith "int" fun _ v =>
  match v with
  | .int i => some i
  | .float x => if x ≤ 9223372036854775808.0 then some (Decimal.truncInt x) else none
  | _ => none

/-- The spellings a boolean target also accepts. -/
def looseBool? (s : String) : Option Bool :=
  if ["y", "Y", "yes", "Yes", "YES", "on", "On", "ON"].contains s then some true
  else if ["n", "N", "no", "No", "NO", "off", "Off", "OFF"].contains s then some false
  else none

/-- A boolean. -/
def decodeBool : Decoder Bool := scalarWith "bool" fun _ v =>
  match v with
  | .bool b => some b
  | .str s => looseBool? s
  | _ => none

/-- A string: the text of any scalar. -/
def decodeString : Decoder String := scalarWith "string" fun n _ => some n.text

/-- A duration in nanoseconds, from its text form. -/
def decodeDuration : Decoder Int := scalarWith "time.Duration" fun _ v =>
  match v with
  | .str s => match Text.parseDuration s with
    | .ok d => some d
    | .error _ => none
  | _ => none

/-- A value read by its own parser from the node's text; a failure stops
decoding. -/
def decodeParsed {α : Type} (parse : String → Except String α) : Decoder α := fun n cur =>
  if n.isNull then pure cur
  else match parse n.text with
    | .ok v => pure v
    | .error e => throw e

/-- The text of a mapping key, none when it is null or not a scalar. -/
def keyText (k : Node) : Decode (Option String) :=
  match k with
  | .scalar t _ _ => pure (if k.isNull then none else some t)
  | .seq _ _ => do
    typeError k "string"
    pure none
  | .map pairs _ => do
    if ← uniqueKeys pairs then typeError k "string"
    pure none

/-- A record from a mapping: each key names a field decoder; unknown keys are
ignored. -/
def decodeRecord {α : Type} (typeName : String) (field : String → Option (Decoder α)) : Decoder α :=
  fun n cur =>
    match n with
    | .map pairs _ => do
      if !(← uniqueKeys pairs) then return cur
      let mut v := cur
      for (k, x) in pairs do
        if let some name ← keyText k then
          if let some d := field name then
            v ← d x v
      return v
    | .scalar _ _ _ => do
      if !n.isNull then typeError n typeName
      pure cur
    | .seq _ _ => do
      typeError n typeName
      pure cur

/-- Whether a mapping repeats a key. -/
def repeatsKey (pairs : List (Node × Node)) : Bool :=
  let keys := pairs.map (·.1)
  (List.range keys.length).any fun i =>
    (List.range keys.length).any fun j => i < j && sameKey keys[i]! keys[j]!

/-- A record read as a list element: none when the element is not a mapping
or repeats a key. -/
def recordItem {α : Type} (d : Decoder α) (zero : α) (n : Node) : Decode (Option α) :=
  match n with
  | .map pairs _ => do
    let v ← d n zero
    return if repeatsKey pairs then none else some v
  | _ => do
    let _ ← d n zero
    return none

/-- A list of records; null empties it. -/
def decodeRecords {α : Type} (listType : String) (d : Decoder α) (zero : α) : Decoder (List α) :=
  fun n cur =>
    match n with
    | .seq items _ => items.filterMapM (recordItem d zero)
    | .scalar _ _ _ => do
      if n.isNull then return []
      typeError n listType
      pure cur
    | .map pairs _ => do
      if ← uniqueKeys pairs then typeError n listType
      pure cur

/-- A value of unknown type. -/
inductive Value where
  | null
  | bool (b : Bool)
  | int (i : Int)
  /-- an integer above the signed 64-bit range -/
  | uint (n : Nat)
  | float (x : Float)
  | str (s : String)
  | seq (items : List Value)
  /-- a mapping; its keys are all strings when it came from one with string keys -/
  | map (pairs : List (Value × Value))
  deriving Inhabited

/-- The value of a resolved scalar. -/
def Value.ofScalar : Scalar → Value
  | .null => .null
  | .bool b => .bool b
  | .int i => .int i
  | .uint n => .uint n
  | .float x => .float x
  | .str s => .str s

/-- Sets `key` in an association list, replacing an earlier entry. -/
def setEntry {κ α : Type} [BEq κ] (entries : List (κ × α)) (key : κ) (v : α) : List (κ × α) :=
  if entries.any (·.1 == key) then entries.map fun (k, x) => if k == key then (k, v) else (k, x)
  else entries ++ [(key, v)]

/-- Equality of values used as mapping keys. -/
def Value.beq : Value → Value → Bool
  | .null, .null => true
  | .bool a, .bool b => a == b
  | .int a, .int b => a == b
  | .uint a, .uint b => a == b
  | .float a, .float b => a == b
  | .str a, .str b => a == b
  | _, _ => false

instance : BEq Value := ⟨Value.beq⟩

/-- Whether every key of a mapping is a string. -/
def stringKeyed (pairs : List (Node × Node)) : Bool :=
  pairs.all fun (k, _) => k.tag == "!!str" || k.tag == "!!merge"

mutual

/-- Decodes a node of unknown type; none when a mapping in it repeats a key. -/
def decodeValue : Node → Decode (Option Value)
  | .scalar t s m => pure (some (Value.ofScalar (Node.scalar t s m).scalar?))
  | .seq items _ => do
    let vs ← decodeItems items
    return some (.seq vs)
  | .map pairs _ => do
    if !(← uniqueKeys pairs) then return none
    let entries ← decodePairs (stringKeyed pairs) pairs
    return some (.map entries)

/-- The decoded items of a sequence, failed ones left out. -/
def decodeItems : List Node → Decode (List Value)
  | [] => pure []
  | n :: rest => do
    let v ← decodeValue n
    let vs ← decodeItems rest
    return match v with
      | some v => v :: vs
      | none => vs

/-- The decoded entries of a mapping; with string keys, a key that is not a
scalar is a type error and a null key is skipped. -/
def decodePairs (strings : Bool) : List (Node × Node) → Decode (List (Value × Value))
  | [] => pure []
  | (k, x) :: rest => do
    let key? ← if strings then do
        let t ← keyText k
        pure (t.map Value.str)
      else decodeValue k
    let entry ← match key? with
      | some key => do
        let v ← decodeValue x
        pure (match v with
          | some v => some (key, v)
          | none => none)
      | none => pure none
    let entries ← decodePairs strings rest
    -- a later entry of the same key wins
    return match entry with
      | some (key, v) => if entries.any (·.1 == key) then entries else (key, v) :: entries
      | none => entries

end

/-- A mapping with string keys, decoded over its current entries. -/
def decodeStringMap (typeName : String) : Decoder (List (String × Value)) := fun n cur =>
  match n with
  | .map pairs _ => do
    if !(← uniqueKeys pairs) then return cur
    let mut out := cur
    for (k, x) in pairs do
      if let some name ← keyText k then
        if let some v ← decodeValue x then
          out := setEntry out name v
    return out
  | .scalar _ _ _ => do
    if n.isNull then return []
    typeError n typeName
    pure cur
  | .seq _ _ => do
    typeError n typeName
    pure cur

/-- The message of the type errors of a decoding. -/
def typeErrorsMessage (errs : Array String) : String :=
  "yaml: unmarshal errors:\n  " ++ "\n  ".intercalate errs.toList

/-- Decodes one node over a current value, reporting the type errors
together. -/
def runDecoder {α : Type} (d : Decoder α) (root : Node) (cur : α) : Except String α :=
  match (d root cur).run #[] with
  | .error e => .error e
  | .ok (v, errs) => if errs.isEmpty then .ok v else .error (typeErrorsMessage errs)

/-- Decodes a YAML text over a current value: the new value, or the message
of the first read error, of a field parser's failure, or of every type error. -/
def decodeText {α : Type} (d : Decoder α) (text : String) (cur : α) : Except String α :=
  match load text with
  | .error p => .error p.message
  | .ok none => .ok cur
  | .ok (some root) => runDecoder d root cur

end Multibody.Yaml
