import Hostlink.Log.Config
import Hostlink.Log.Emission
import Hostlink.Log.Line.Field

/-!
# Compact lines

One line for each event: level, thread, the names of the spans around it, target, fields, and the
fields of these spans.  The outermost span comes first.
-/

namespace Hostlink.Log.Compact

/-- How fields are written. -/
def fieldStyle : FieldStyle := ⟨"=", " "⟩

/-- The thread, with two digits for its number. -/
def thread : String :=
  let number := toString threadNumber
  let padding := "".pushn '0' (2 - number.length)
  s!"{threadName} ThreadId({padding}{number}) "

/-- The names of spans, the innermost one given first. -/
def spanNames (scope : List Span) : String :=
  if scope.isEmpty then ""
  else String.join (scope.reverse.map fun s => s.source.name ++ ":") ++ " "

/-- The fields of spans, the innermost one given first. -/
def spanFields (scope : List Span) : String :=
  String.join <| scope.reverse.map fun s =>
    let fields := fieldStyle.writeAll s.fields
    if fields.isEmpty then "" else " " ++ fields

/-- The line for an event. -/
def line (c : Config) (e : Event) (scope : List Span) : String :=
  e.source.level.column ++ " "
    ++ (if c.displayThread then thread else "")
    ++ spanNames scope
    ++ (if c.displayTarget then e.source.target ++ ": " else "")
    ++ fieldStyle.writeAll e.fields
    ++ spanFields scope
    ++ "\n"

end Hostlink.Log.Compact
