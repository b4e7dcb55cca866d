import Hostlink.Log.Entry
import Hostlink.Text.Quoted

/-!
# The console

A log pipeline that prints entries for people, from a least level on.
-/

namespace Hostlink.Log

/-- A console that prints entries of at least one level. -/
structure Console where
  minLevel : Level
  deriving DecidableEq, Repr

namespace Console

/-- The console that leaves out what is for debugging. -/
def standard : Console := ⟨.info⟩

/-- Fields in braces, names and values quoted. -/
def fieldsText (fields : FieldMap) : String :=
  let pairs := fields.toList.map fun (name, value) => Text.quote name ++ ": " ++ Text.quote value
  "\x7b" ++ ", ".intercalate pairs ++ "\x7d"

/-- The lines that an entry is printed as. -/
def lines (e : Entry) : String :=
  "[" ++ e.timestamp.renderMillis ++ "] " ++ e.level.upperName ++ " " ++ e.target ++ ": "
    ++ e.message ++ "\n"
    ++ if e.fields.isEmpty then "" else "  Fields: " ++ fieldsText e.fields ++ "\n"

/-- What the console prints for an entry. -/
def print (console : Console) (e : Entry) : String :=
  if console.minLevel ≤ e.level then lines e else ""

/-- What the console prints for a list of entries. -/
def printAll (console : Console) (entries : List Entry) : String :=
  String.join (entries.map console.print)

end Console
end Hostlink.Log
