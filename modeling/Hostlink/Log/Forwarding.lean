import Hostlink.Error
import Hostlink.Log.Config
import Hostlink.Log.Emission
import Hostlink.Log.Entry
import Hostlink.Redaction

/-!
# Entries for the host

An event that is severe enough for the host's pipeline is handed to it as an entry.  The values of
its fields become running text, scrubbed on the way if that is wanted.  The message is never
scrubbed.
-/

namespace Hostlink.Log

/-- The message of an event: the last value recorded for it, or else the name of the source. -/
def Event.message (e : Event) : String :=
  match e.fields.reverse.find? (·.name = messageField) with
  | some field => field.value.plain
  | none => e.source.name

/-- The text of a field as it is handed on. -/
def Field.forwarded (redact : Bool) (f : Field) : String :=
  if redact then Redaction.redactField f.name f.value.plain else f.value.plain

/-- The fields of an event other than its message; of one name the last one counts. -/
def Event.forwardedFields (redact : Bool) (e : Event) : FieldMap :=
  .ofList ((e.fields.filter (·.name ≠ messageField)).map fun f => (f.name, f.forwarded redact))

/-- The entry for an event in a scope. -/
def Event.toEntry (redact : Bool) (now : Time.Instant) (e : Event) (scope : List Span) : Entry where
  level := e.source.level
  timestamp := now
  target := e.source.target
  message := e.message
  fields := e.forwardedFields redact
  spanId := scope.head?.map (·.source.name)

namespace Sink

/-- The entry that the pipeline gets for something noticed, if it gets one. -/
def entry? (sink : Sink) (redact : Bool) (now : Time.Instant) : Happening → Option Entry
  | .event e scope =>
    if sink.minLevel ≤ e.source.level then some (e.toEntry redact now scope) else none
  | .opened .. => none
  | .closed .. => none

/-- How a pipeline that fails reports it. -/
def failure : HostError := .operationFailed "sink failed"

/-- The line that reports that an entry could not be logged. -/
def failureLine (e : HostError) : String := s!"LoggerSink error: {e.message}"

end Sink
end Hostlink.Log
