import Multibody.Yaml.Scanner

/-!
# YAML nodes

The second stage of reading YAML: tokens become a tree of scalars, sequences
and mappings, each node remembering where it starts.  Only the first document
of a stream is read; a stream without documents reads as nothing.

The grammar is the one of block and flow collections: a block sequence is a
run of `-` entries, a block mapping a run of key/value pairs, and a sequence
may sit directly under a mapping key without further indentation.  A missing
key or value reads as an empty plain scalar.  Errors name the start of the
collection being read and the token that does not fit.
-/

namespace Multibody.Yaml

/-- A YAML node: a scalar with its text and quoting, a sequence, or a mapping
with its pairs in order; each with the position where it starts. -/
inductive Node where
  | scalar (text : String) (style : Style) (mark : Mark)
  | seq (items : List Node) (mark : Mark)
  | map (pairs : List (Node × Node)) (mark : Mark)

instance : Inhabited Node := ⟨.scalar "" .plain {}⟩

namespace Node

/-- Where the node starts. -/
def mark : Node → Mark
  | .scalar _ _ m => m
  | .seq _ m => m
  | .map _ m => m

/-- The one-based line the node starts on. -/
def line (n : Node) : Nat := n.mark.line + 1

/-- The text of a scalar, empty for a collection. -/
def text : Node → String
  | .scalar t _ _ => t
  | _ => ""

end Node

/-- An empty plain scalar, standing for a missing key or value. -/
def emptyScalar (m : Mark) : Node := .scalar "" .plain m

/-- Stops reading at a token that does not fit the grammar. -/
def grammarError {α : Type} (context : Mark) (problem : String) (found : Mark) : Scan α :=
  throw { scanning := false, contextMark := context, problem, problemMark := found }

/-- Whether a token is one of a few kinds. -/
def Tok.isOneOf (t : Tok) (kinds : List Tok) : Bool := kinds.contains t

/-- Reads one node; `block` allows block collections, `indentless` a
sequence without indentation (as a mapping value).  `fuel` bounds the depth. -/
def parseNode : Nat → Bool → Bool → Scan Node
  | 0, _, _ => do
    let t ← peekToken
    grammarError t.start "did not find expected node content" t.start
  | fuel + 1, block, indentless => do
    let bound := 5 * (← get).text.size + 16
    let t ← peekToken
    match t.tok with
    | .scalar text style =>
      skipToken
      return .scalar text style t.start
    | .blockEntry =>
      if !indentless then grammarError t.start "did not find expected node content" t.start
      let mut items : Array Node := #[]
      for _ in [0:bound] do
        let e ← peekToken
        if e.tok != .blockEntry then break
        skipToken
        let n ← peekToken
        if n.tok.isOneOf [.blockEntry, .key, .value, .blockEnd] then items := items.push (emptyScalar e.stop)
        else items := items.push (← parseNode fuel true false)
      return .seq items.toList t.start
    | .blockSequenceStart =>
      if !block then grammarError t.start "did not find expected node content" t.start
      skipToken
      let mut items : Array Node := #[]
      for _ in [0:bound] do
        let e ← peekToken
        if e.tok == .blockEnd then
          skipToken
          break
        if e.tok != .blockEntry then grammarError t.start "did not find expected '-' indicator" e.start
        skipToken
        let n ← peekToken
        if n.tok.isOneOf [.blockEntry, .blockEnd] then items := items.push (emptyScalar e.stop)
        else items := items.push (← parseNode fuel true false)
      return .seq items.toList t.start
    | .blockMappingStart =>
      if !block then grammarError t.start "did not find expected node content" t.start
      skipToken
      let mut pairs : Array (Node × Node) := #[]
      for _ in [0:bound] do
        let k ← peekToken
        if k.tok == .blockEnd then
          skipToken
          break
        if k.tok != .key then grammarError t.start "did not find expected key" k.start
        skipToken
        let n ← peekToken
        let key ← if n.tok.isOneOf [.key, .value, .blockEnd] then pure (emptyScalar k.stop)
          else parseNode fuel true true
        let v ← peekToken
        let value ← if v.tok == .value then do
            skipToken
            let n ← peekToken
            if n.tok.isOneOf [.key, .value, .blockEnd] then pure (emptyScalar v.stop)
            else parseNode fuel true true
          else pure (emptyScalar v.start)
        pairs := pairs.push (key, value)
      return .map pairs.toList t.start
    | .flowSequenceStart =>
      skipToken
      let mut items : Array Node := #[]
      let mut first := true
      for _ in [0:bound] do
        let mut e ← peekToken
        if e.tok == .flowSequenceEnd then break
        if !first then
          if e.tok != .flowEntry then grammarError t.start "did not find expected ',' or ']'" e.start
          skipToken
          e ← peekToken
        first := false
        if e.tok == .key then
          skipToken
          let n ← peekToken
          let key ← if n.tok.isOneOf [.value, .flowEntry, .flowSequenceEnd] then do
              skipToken
              pure (emptyScalar n.stop)
            else parseNode fuel false false
          let v ← peekToken
          let value ← if v.tok == .value then do
              skipToken
              let n ← peekToken
              if n.tok.isOneOf [.flowEntry, .flowSequenceEnd] then pure (emptyScalar v.start)
              else parseNode fuel false false
            else pure (emptyScalar v.start)
          items := items.push (.map [(key, value)] e.start)
        else if e.tok == .flowSequenceEnd then break
        else items := items.push (← parseNode fuel false false)
      skipToken
      return .seq items.toList t.start
    | .flowMappingStart =>
      skipToken
      let mut pairs : Array (Node × Node) := #[]
      let mut first := true
      for _ in [0:bound] do
        let mut e ← peekToken
        if e.tok == .flowMappingEnd then break
        if !first then
          if e.tok != .flowEntry then grammarError t.start "did not find expected ',' or '\x7d'" e.start
          skipToken
          e ← peekToken
        first := false
        if e.tok == .key then
          skipToken
          let n ← peekToken
          let key ← if n.tok.isOneOf [.value, .flowEntry, .flowMappingEnd] then pure (emptyScalar n.start)
            else parseNode fuel false false
          let v ← peekToken
          let value ← if v.tok == .value then do
              skipToken
              let n ← peekToken
              if n.tok.isOneOf [.flowEntry, .flowMappingEnd] then pure (emptyScalar n.start)
              else parseNode fuel false false
            else pure (emptyScalar v.start)
          pairs := pairs.push (key, value)
        else if e.tok == .flowMappingEnd then break
        else
          let key ← parseNode fuel false false
          let v ← peekToken
          pairs := pairs.push (key, emptyScalar v.start)
      skipToken
      return .map pairs.toList t.start
    | _ => grammarError t.start "did not find expected node content" t.start

/-- Reads the first document of the stream: its root node, or `none` for a
stream without documents. -/
def parseDocument : Scan (Option Node) := do
  let fuel := 5 * (← get).text.size + 16
  let _ ← peekToken
  skipToken
  let t ← peekToken
  if t.tok == .streamEnd then return none
  let root ← if t.tok == .documentStart then do
      skipToken
      let c ← peekToken
      if c.tok.isOneOf [.documentStart, .documentEnd, .streamEnd] then pure (emptyScalar c.start)
      else parseNode fuel true false
    else parseNode fuel true false
  let _ ← peekToken
  return some root

/-- The root node of the first document of a YAML text. -/
def load (text : String) : Except Problem (Option Node) := do
  let s ← Scanner.ofText text
  let (root, _) ← parseDocument.run s
  return root

end Multibody.Yaml
