import Hostlink.Log.Level
import Hostlink.Text.Diagnostic

/-!
# Configuration of logging

How log events are printed, which ones are, and whether they are also handed to a host's pipeline.
-/

namespace Hostlink.Log

/-- The forms of printed lines. -/
inductive Format where
  /-- Several lines for people. -/
  | pretty
  /-- One object a line for machines. -/
  | json
  /-- One line for people. -/
  | compact
  deriving DecidableEq, Repr

/-- The name of a form. -/
def Format.name : Format → String
  | .pretty => "Pretty"
  | .json => "Json"
  | .compact => "Compact"

/-- A host's pipeline. -/
structure Sink where
  minLevel : Level
  /-- Whether it fails after each entry. -/
  fails : Bool
  deriving DecidableEq, Repr

/-- The least level that a pipeline gets unless it says otherwise. -/
def Sink.standardLevel : Level := .info

/-- How logging is set up. -/
structure Config where
  format : Format
  level : Level
  /-- Whether fields are scrubbed before they are handed to the pipeline. -/
  redactFields : Bool
  filter : Option String
  sink : Option Sink
  enableSpans : Bool
  displayTarget : Bool
  displayThread : Bool
  deriving DecidableEq, Repr

namespace Config

/-- Logging unless something else is set. -/
def standard : Config := ⟨.pretty, .info, true, none, none, true, true, false⟩

/-- One call that sets something. -/
inductive Call where
  | format (format : Format)
  | level (level : Level)
  | redaction (enabled : Bool)
  | filter (directives : String)
  | sink (sink : Sink)
  | spans (enabled : Bool)
  | target (displayed : Bool)
  | threadInfo (displayed : Bool)
  deriving DecidableEq, Repr

/-- The configuration after a call. -/
def set (c : Config) : Call → Config
  | .format format => { c with format }
  | .level level => { c with level }
  | .redaction enabled => { c with redactFields := enabled }
  | .filter directives => { c with filter := some directives }
  | .sink sink => { c with sink := some sink }
  | .spans enabled => { c with enableSpans := enabled }
  | .target displayed => { c with displayTarget := displayed }
  | .threadInfo displayed => { c with displayThread := displayed }

/-- The configuration after a list of calls. -/
def ofCalls (calls : List Call) : Config := calls.foldl set standard

/-- The configuration for diagnosis. -/
def shown (c : Config) : Text.Diagnostic :=
  .record "LoggingConfig" [
    ("format", .atom c.format.name),
    ("level", .atom c.level.name),
    ("redact_fields", .bool c.redactFields),
    ("filter", .option (c.filter.map .quoted)),
    ("logger_sink", .option (c.sink.map fun _ => .quoted "LoggerSink \x7b ... \x7d")),
    ("enable_spans", .bool c.enableSpans),
    ("display_target", .bool c.displayTarget),
    ("display_thread_info", .bool c.displayThread)]

end Config
end Hostlink.Log
