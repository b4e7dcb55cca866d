import Hostlink.Log.Event
import Hostlink.Text.Control

/-!
# Fields in lines for people

Every value is shown as a diagnostic: texts are quoted and numbers keep their point.  The message
stands without its name and quotes.
-/

namespace Hostlink.Log

/-- The value as a diagnostic. -/
def FieldValue.diagnostic : FieldValue → String
  | .text value => Text.quote value
  | .int value | .wide value => toString value
  | .bool value => toString value
  | .float bits => Decimal.Layout.diagnostic.write bits
  | .shown content => content
  | .error sentence => Text.escapeControls sentence
  | .bytes value => bytesText value

/-- The value as a message. -/
def FieldValue.asMessage : FieldValue → String
  | .text value => Text.escapeControls value
  | other => Text.escapeControls other.diagnostic

/-- The beginning of the names of fields that only say where an event came from. -/
def originMark : List Char := ['l', 'o', 'g', '.']

/-- The mark before a name that would otherwise be a word of the language. -/
def rawMark : List Char := ['r', '#']

/-- The name under which a field is shown, if it is. -/
def shownName? (name : String) : Option String :=
  if originMark.isPrefixOf name.toList then none
  else if rawMark.isPrefixOf name.toList then
    some (String.ofList (name.toList.drop rawMark.length))
  else some name

/-- How fields are written one after the other. -/
structure FieldStyle where
  /-- Stands between a name and its value. -/
  assign : String
  /-- Stands between two fields. -/
  between : String
  deriving DecidableEq, Repr

namespace FieldStyle

/-- One field, if it is shown. -/
def write? (style : FieldStyle) (f : Field) : Option String :=
  if f.name = messageField then some f.value.asMessage
  else (shownName? f.name).map fun name => name ++ style.assign ++ f.value.diagnostic

/-- Fields in order. -/
def writeAll (style : FieldStyle) (fields : List Field) : String :=
  style.between.intercalate (fields.filterMap style.write?)

end FieldStyle

/-- The name of a level in the columns that begin a line. -/
def Level.column (level : Level) : String :=
  "".pushn ' ' (6 - level.upperName.length) ++ level.upperName

/-- The name of the thread that events happen on. -/
def threadName : String := "main"

/-- The number of the thread that events happen on. -/
def threadNumber : Nat := 1

end Hostlink.Log
