import Hostlink.Json.Value
import Hostlink.Decimal.Layout

/-!
# Writing JSON texts

The compact form of a value: no blanks, members in the order in which the object holds them,
strings with the short escapes where there are some.
-/

namespace Hostlink.Json

/-- One character of a string literal. -/
def escapeChar (c : Char) : List Char :=
  if c = '"' then ['\\', '"']
  else if c = '\\' then ['\\', '\\']
  else if c = '\x08' then ['\\', 'b']
  else if c = '\x0c' then ['\\', 'f']
  else if c = '\n' then ['\\', 'n']
  else if c = '\r' then ['\\', 'r']
  else if c = '\t' then ['\\', 't']
  else if c.toNat < 0x20 then '\\' :: 'u' :: Text.hexFixed 4 c.toNat
  else [c]

/-- A string literal. -/
def writeString (s : String) : List Char := '"' :: (s.toList.flatMap escapeChar ++ ['"'])

/-- The text of a number; one that is not finite has none and is written as null. -/
def Number.write : Number → List Char
  | .int value => (toString value).toList
  | .float bits =>
    if Decimal.isFinite bits then (Decimal.Layout.json.write bits).toList
    else ['n', 'u', 'l', 'l']

mutual

/-- The compact text of a value. -/
def Value.write : Value → List Char
  | .null => ['n', 'u', 'l', 'l']
  | .bool true => ['t', 'r', 'u', 'e']
  | .bool false => ['f', 'a', 'l', 's', 'e']
  | .number n => n.write
  | .string s => writeString s
  | .array items => '[' :: writeItems items
  | .object members => '\x7b' :: writeMembers members

/-- The items of an array and its closing bracket. -/
def writeItems : List Value → List Char
  | [] => [']']
  | [item] => item.write ++ [']']
  | item :: rest => item.write ++ ',' :: writeItems rest

/-- The members of an object and its closing brace. -/
def writeMembers : List (String × Value) → List Char
  | [] => ['\x7d']
  | [(key, value)] => writeString key ++ ':' :: (value.write ++ ['\x7d'])
  | (key, value) :: rest => writeString key ++ ':' :: (value.write ++ ',' :: writeMembers rest)

end

/-- The compact text of a value. -/
def Value.render (value : Value) : String := String.ofList value.write

end Hostlink.Json
