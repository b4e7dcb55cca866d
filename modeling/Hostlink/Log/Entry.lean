import Hostlink.Json.Decode
import Hostlink.Json.Printer
import Hostlink.Log.Level
import Hostlink.SortedMap
import Hostlink.Time.Rfc3339

/-!
# Log entries

What a host's log pipeline receives: a level, a time, a target, a message, fields, and the name of
the span in which the event was recorded.  Entries travel as JSON objects.  The reader ignores
members it does not know, but refuses a known one that comes twice; it also accepts the bare list
of the members' values.
-/

namespace Hostlink.Log

/-- The fields of an entry: texts by name. -/
abbrev FieldMap := SortedMap String String

/-- A log entry. -/
structure Entry where
  level : Level
  timestamp : Time.Instant
  target : String
  message : String
  fields : FieldMap
  /-- The name of the innermost span. -/
  spanId : Option String
  deriving DecidableEq

namespace Entry

/-- An entry without fields and span. -/
def make (level : Level) (timestamp : Time.Instant) (target message : String) : Entry :=
  ⟨level, timestamp, target, message, .empty, none⟩

/-- The entry with a field set. -/
def withField (e : Entry) (name value : String) : Entry :=
  { e with fields := e.fields.insert name value }

/-- The entry with a span. -/
def withSpan (e : Entry) (name : String) : Entry := { e with spanId := some name }

/-! ## Writing -/

/-- The entry as a JSON object. -/
def toJson (e : Entry) : Json.Value :=
  .object [
    ("level", .string e.level.name),
    ("timestamp", .string e.timestamp.render),
    ("target", .string e.target),
    ("message", .string e.message),
    ("fields", .object (e.fields.toList.map fun (name, value) => (name, .string value))),
    ("span_id", match e.spanId with
      | some name => .string name
      | none => .null)]

/-- The JSON text of an entry. -/
def render (e : Entry) : String := e.toJson.render

/-! ## Reading -/

/-- The names of the members, in order. -/
def memberNames : List String := ["level", "timestamp", "target", "message", "fields", "span_id"]

/-- The level that a tree writes: its name, or an object with the name as its only key. -/
def level? : Json.Tree → Option Level
  | .string parts => Json.textOf? parts >>= Level.ofName?
  | .object [(key, .null)] => Json.textOf? key >>= Level.ofName?
  | _ => none

/-- The instant that a tree writes. -/
def timestamp? (tree : Json.Tree) : Option Time.Instant := tree.text? >>= Time.Instant.ofString?

/-- The fields that a tree writes. -/
def fields? : Json.Tree → Option FieldMap
  | .object members => do
    let fields ← members.mapM fun (key, value) => do
      let key ← Json.textOf? key
      let value ← value.text?
      return (key, value)
    return .ofList fields
  | _ => none

/-- The span that a tree writes; null stands for none. -/
def spanId? : Json.Tree → Option (Option String)
  | .null => some none
  | tree => some <$> tree.text?

/-- The entry with given members. -/
def ofParts? (level timestamp target message fields spanId : Json.Tree) : Option Entry := do
  let level ← level? level
  let timestamp ← timestamp? timestamp
  let target ← target.text?
  let message ← message.text?
  let fields ← fields? fields
  let spanId ← spanId? spanId
  return ⟨level, timestamp, target, message, fields, spanId⟩

/-- The members whose names an entry knows, by name. -/
def knownMembers? (members : List (List Json.StringPart × Json.Tree)) :
    Option (List (String × Json.Tree)) := do
  let members ← members.mapM fun (key, value) => do
    let key ← Json.textOf? key
    return (key, value)
  return members.filter fun (key, _) => memberNames.contains key

/-- The entry that a tree writes. -/
def ofTree? : Json.Tree → Option Entry
  | .array [level, timestamp, target, message, fields, spanId] =>
    ofParts? level timestamp target message fields spanId
  | .object members => do
    let known ← knownMembers? members
    if ((known.map (·.1)).eraseDups.length ≠ known.length) then none
    else
      let level ← Json.lookup? "level" known
      let timestamp ← Json.lookup? "timestamp" known
      let target ← Json.lookup? "target" known
      let message ← Json.lookup? "message" known
      let fields ← Json.lookup? "fields" known
      let spanId := (Json.lookup? "span_id" known).getD .null
      ofParts? level timestamp target message fields spanId
  | _ => none

/-- The entry that a JSON text writes. -/
def ofString? (text : String) : Option Entry := Json.Tree.ofString? text >>= ofTree?

end Entry
end Hostlink.Log
