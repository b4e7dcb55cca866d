import Hostlink.Json.Printer
import Hostlink.Log.Config
import Hostlink.Log.Emission
import Hostlink.Log.Line.Field

/-!
# Lines for machines

One JSON object for each event: its level, its fields among the other members, its target, the span
that it happened in with the list of all spans around it, and the thread.  A member that comes twice
is written twice.
-/

namespace Hostlink.Log.Structured

/-- The value as JSON; what has no form there is text. -/
def fieldJson : FieldValue → Json.Value
  | .text value => .string value
  | .int value => .number (.int value)
  | .wide value => .string (toString value)
  | .bool value => .bool value
  | .float bits => .number (.float bits)
  | .shown content => .string content
  | .error sentence => .string sentence
  | .bytes value => .string (bytesText value)

/-- The member for a field of a span, if it has one.  A value without a form of its own in JSON is
subject to the rules for names that are shown; bytes are numbers here. -/
def spanMember? (f : Field) : Option (String × Json.Value) :=
  match f.value with
  | .wide _ | .shown _ | .error _ =>
    (shownName? f.name).map fun name => (name, fieldJson f.value)
  | .bytes value => some (f.name, .array (value.map fun b => .number (.int b.toNat)))
  | .text _ | .int _ | .bool _ | .float _ => some (f.name, fieldJson f.value)

/-- The fields of a span as they are kept, which is as the text of an object. -/
def keptFields (s : Span) : List (String × Json.Value) :=
  let members := Json.Value.object (Json.sortMembers (s.fields.filterMap spanMember?))
  match Json.Value.ofString? members.render with
  | some (.object members) => members
  | _ => []

/-- A span with its name. -/
def spanJson (s : Span) : Json.Value := .object (keptFields s ++ [("name", .string s.source.name)])

/-- The members for the spans around an event. -/
def scopeMembers : List Span → List (String × Json.Value)
  | [] => []
  | innermost :: outer =>
    [("span", spanJson innermost), ("spans", .array ((innermost :: outer).reverse.map spanJson))]

/-- The members for the thread. -/
def threadMembers : List (String × Json.Value) :=
  [("threadName", .string threadName), ("threadId", .string s!"ThreadId({threadNumber})")]

/-- The object for an event. -/
def object (c : Config) (e : Event) (scope : List Span) : Json.Value :=
  .object <|
    ("level", .string e.source.level.upperName)
      :: e.fields.map (fun f => (f.name, fieldJson f.value))
      ++ (if c.displayTarget then [("target", .string e.source.target)] else [])
      ++ (if c.enableSpans then scopeMembers scope else [])
      ++ (if c.displayThread then threadMembers else [])

/-- The line for an event. -/
def line (c : Config) (e : Event) (scope : List Span) : String := (object c e scope).render ++ "\n"

end Hostlink.Log.Structured
