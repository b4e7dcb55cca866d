/-!
# Severity levels

Five levels, from the most talkative to the most severe.
-/

namespace Hostlink.Log

/-- How severe an event is. -/
inductive Level where
  | trace
  | debug
  | info
  | warn
  | error
  deriving DecidableEq, Repr

namespace Level

/-- The place of a level in the order of severity. -/
def rank : Level → Nat
  | .trace => 0
  | .debug => 1
  | .info => 2
  | .warn => 3
  | .error => 4

instance : LE Level := ⟨fun a b => a.rank ≤ b.rank⟩
instance : LT Level := ⟨fun a b => a.rank < b.rank⟩
instance (a b : Level) : Decidable (a ≤ b) := inferInstanceAs (Decidable (a.rank ≤ b.rank))
instance (a b : Level) : Decidable (a < b) := inferInstanceAs (Decidable (a.rank < b.rank))

/-- Compares by severity. -/
def order (a b : Level) : Ordering := compare a.rank b.rank

/-- All levels, in the order of severity. -/
def all : List Level := [.trace, .debug, .info, .warn, .error]

/-- The name in structured entries. -/
def name : Level → String
  | .trace => "Trace"
  | .debug => "Debug"
  | .info => "Info"
  | .warn => "Warn"
  | .error => "Error"

/-- The name in filters. -/
def lowerName : Level → String
  | .trace => "trace"
  | .debug => "debug"
  | .info => "info"
  | .warn => "warn"
  | .error => "error"

/-- The name at the head of a printed line. -/
def upperName : Level → String
  | .trace => "TRACE"
  | .debug => "DEBUG"
  | .info => "INFO"
  | .warn => "WARN"
  | .error => "ERROR"

/-- The level with a given name in structured entries. -/
def ofName? (name : String) : Option Level := all.find? (·.name = name)

end Level
end Hostlink.Log
