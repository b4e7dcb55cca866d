import Hostlink.Log.Config
import Hostlink.Log.Emission
import Hostlink.Log.Line.Field

/-!
# Blocks of lines

Several lines for each event: level, target and fields, then the thread, then the spans around it,
the innermost one first, and an empty line.  Opening and closing a span are events of their own,
with the level and the target of the span, inside the span.
-/

namespace Hostlink.Log.Pretty

/-- How fields are written. -/
def fieldStyle : FieldStyle := ⟨": ", ", "⟩

/-- The first line. -/
def head (c : Config) (e : Event) : String :=
  e.source.level.column ++ " " ++ (if c.displayTarget then e.source.target ++ ":" else "") ++ " "
    ++ fieldStyle.writeAll e.fields ++ "\n"

/-- The line for the thread. -/
def thread : String := s!"    on {threadName} ThreadId({threadNumber})\n"

/-- The line for a span. -/
def spanLine (c : Config) (s : Span) : String :=
  let name := if c.displayTarget then s.source.target ++ "::" ++ s.source.name else s.source.name
  let fields := fieldStyle.writeAll s.fields
  "    in " ++ name ++ (if fields.isEmpty then "" else " with " ++ fields) ++ "\n"

/-- The block for an event. -/
def block (c : Config) (e : Event) (scope : List Span) : String :=
  head c e ++ (if c.displayThread then thread else "")
    ++ String.join (scope.map (spanLine c)) ++ "\n"

/-- Stands for a duration, which only the clock can tell. -/
def unmeasured : FieldValue := .shown "<t>"

/-- The event of opening a span. -/
def opening (s : Span) : Event := ⟨s.source, [⟨messageField, .text "new"⟩]⟩

/-- The event of closing a span. -/
def closing (s : Span) : Event :=
  ⟨s.source, [⟨messageField, .text "close"⟩, ⟨"time.busy", unmeasured⟩, ⟨"time.idle", unmeasured⟩]⟩

end Hostlink.Log.Pretty
