import Hostlink.Log.Level
import Hostlink.Text.Hex
import Hostlink.Text.Quoted
import Hostlink.Decimal.Layout

/-!
# Log events

An event has a level, a target and named fields with typed values.  Its message is the field of
that name.  The library reports what it does through such events; `Event.notice` builds one.
-/

namespace Hostlink.Log

/-- A recorded value. -/
inductive FieldValue where
  | text (value : String)
  | int (value : Int)
  /-- An integer wider than 64 bits. -/
  | wide (value : Int)
  | bool (value : Bool)
  /-- A double-precision number, by its bits. -/
  | float (bits : UInt64)
  /-- A value that comes as its own finished text. -/
  | shown (content : String)
  /-- A failure, by its sentence. -/
  | error (sentence : String)
  | bytes (value : Bytes)
  deriving DecidableEq, Repr

/-- Bytes in square brackets, two digits each. -/
def bytesText (bytes : Bytes) : String :=
  "[" ++ " ".intercalate (bytes.map fun b => String.ofList (Text.hexByte b)) ++ "]"

/-- The value as running text: nothing is quoted and no number has an exponent. -/
def FieldValue.plain : FieldValue → String
  | .text value => value
  | .int value | .wide value => toString value
  | .bool value => toString value
  | .float bits => Decimal.Layout.plain.write bits
  | .shown content => content
  | .error sentence => sentence
  | .bytes value => bytesText value

/-- A named value. -/
structure Field where
  name : String
  value : FieldValue
  deriving DecidableEq, Repr

/-- What identifies the place that events or spans come from. -/
structure Source where
  name : String
  target : String
  level : Level
  deriving DecidableEq, Repr

/-- An event: its source and its fields in the order in which they were recorded. -/
structure Event where
  source : Source
  fields : List Field
  deriving DecidableEq, Repr

/-- The name of the field that holds the message. -/
def messageField : String := "message"

/-- An event with a message. -/
def Event.notice (level : Level) (target message : String) (fields : List Field) : Event :=
  ⟨⟨"event", target, level⟩, ⟨messageField, .shown message⟩ :: fields⟩

end Hostlink.Log
