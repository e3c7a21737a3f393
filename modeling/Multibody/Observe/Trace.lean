import Multibody.Json.Basic

/-!
# Spans

A run of the simulator is traced as two spans: `sim.StartSimulation`, which
covers the set-up and records whether the run resets, and `sim.Run`, a child
of it, which covers the run with its id, body count, first and number of
frames and whether it ended abnormally.  A span that ends with an error has
the status `Error`, the error's message as its description, and an
`exception` event with the message and the error's type.

A tracer collects the spans that end, when its traces are sampled; an
unsampled tracer records nothing.  Spans are kept as JSON objects, one per
line, in the order they end.
-/

namespace Multibody.Observe

/-- A span attribute value. -/
inductive Attr where
  | bool (b : Bool)
  | int (i : Int)
  | str (s : String)
  deriving Inhabited

/-- The JSON of an attribute value. -/
def Attr.toJson : Attr → Json
  | .bool b => .bool b
  | .int i => .int i
  | .str s => .str s

/-- Something that happened during a span. -/
structure SpanEvent where
  name : String
  attributes : List (String × Attr) := []
  deriving Inhabited

/-- A finished span. -/
structure Span where
  name : String
  parent : Option String := none
  attributes : List (String × Attr) := []
  failed : Bool := false
  description : String := ""
  events : List SpanEvent := []
  scope : String
  deriving Inhabited

/-- The scope of the simulator's spans. -/
def simScope : String := "github.com/san-kum/bodysim/sim"

namespace Span

/-- Adds or replaces attributes. -/
def withAttributes (s : Span) (attrs : List (String × Attr)) : Span :=
  { s with attributes := attrs.foldl (fun acc (k, v) =>
      if acc.any (·.1 == k) then acc.map fun (k', v') => if k' == k then (k, v) else (k', v')
      else acc ++ [(k, v)]) s.attributes }

/-- Marks the span failed with an error of a type. -/
def fail (s : Span) (message errorType : String) : Span :=
  { s with failed := true, description := message,
           events := s.events ++ [{ name := "exception", attributes :=
             [("exception.type", .str errorType), ("exception.message", .str message)] }] }

/-- The span as JSON. -/
def toJson (s : Span) : Json :=
  let attrs (as : List (String × Attr)) : Json := .obj (as.map fun (k, v) => (k, v.toJson))
  .obj [("name", .str s.name), ("parent", match s.parent with
      | some p => .str p
      | none => .null),
    ("attributes", attrs s.attributes), ("status", .str (if s.failed then "Error" else "Unset")),
    ("description", .str s.description),
    ("events", .arr (s.events.map fun e => .obj [("name", .str e.name), ("attributes", attrs e.attributes)])),
    ("scope", .str s.scope)]

end Span

/-- Where a simulator's spans go: recorded when sampled. -/
structure Tracer where
  sampled : Bool := true
  spans : Array Span := #[]
  deriving Inhabited

/-- Records a span that ended. -/
def Tracer.finish (t : Tracer) (s : Span) : Tracer :=
  if t.sampled then { t with spans := t.spans.push s } else t

end Multibody.Observe
