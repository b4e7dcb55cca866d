import Hostlink.Text.Quoted

/-!
# Diagnostic forms of structured values

A value shown for diagnosis is a tree of records, tuples and lists over finished texts.  It is
written on one line or, one member a line, with every level indented by four more blanks.
-/

namespace Hostlink.Text

/-- A structured value to show. -/
inductive Diagnostic where
  | atom (text : String)
  | record (name : String) (fields : List (String × Diagnostic))
  /-- Values in parentheses behind a name, which may be empty. -/
  | tuple (name : String) (items : List Diagnostic)
  | list (items : List Diagnostic)
  deriving Repr

namespace Diagnostic

/-- A quoted text. -/
def quoted (s : String) : Diagnostic := .atom (quote s)

/-- A number. -/
def nat (n : Nat) : Diagnostic := .atom (toString n)

/-- A truth value. -/
def bool (b : Bool) : Diagnostic := .atom (if b then "true" else "false")

/-- A value that may be absent. -/
def option (value : Option Diagnostic) : Diagnostic :=
  match value with
  | none => .atom "None"
  | some v => .tuple "Some" [v]

mutual

/-- The form on one line. -/
def compact : Diagnostic → String
  | .atom text => text
  | .record name fields => name ++ " \x7b " ++ compactFields fields ++ " \x7d"
  | .tuple name items => name ++ "(" ++ compactItems items ++ ")"
  | .list items => "[" ++ compactItems items ++ "]"

/-- The fields of a record, separated by commas. -/
def compactFields : List (String × Diagnostic) → String
  | [] => ""
  | [(key, value)] => key ++ ": " ++ value.compact
  | (key, value) :: rest => key ++ ": " ++ value.compact ++ ", " ++ compactFields rest

/-- Items separated by commas. -/
def compactItems : List Diagnostic → String
  | [] => ""
  | [item] => item.compact
  | item :: rest => item.compact ++ ", " ++ compactItems rest

end

/-- A line break followed by the blanks of a level. -/
def breakLine (level : Nat) : String := "\n" ++ String.ofList (List.replicate (4 * level) ' ')

mutual

/-- The form on several lines; the first one is already indented to `level`. -/
def spread (level : Nat) : Diagnostic → String
  | .atom text => text
  | .record name [] => name
  | .record name fields => name ++ " \x7b" ++ spreadFields level fields ++ breakLine level ++ "\x7d"
  | .tuple name [] => name
  | .tuple name items => name ++ "(" ++ spreadItems level items ++ breakLine level ++ ")"
  | .list [] => "[]"
  | .list items => "[" ++ spreadItems level items ++ breakLine level ++ "]"

/-- Fields, each on a line of its own. -/
def spreadFields (level : Nat) : List (String × Diagnostic) → String
  | [] => ""
  | (key, value) :: rest =>
    breakLine (level + 1) ++ key ++ ": " ++ spread (level + 1) value ++ ","
      ++ spreadFields level rest

/-- Items, each on a line of its own. -/
def spreadItems (level : Nat) : List Diagnostic → String
  | [] => ""
  | item :: rest =>
    breakLine (level + 1) ++ spread (level + 1) item ++ "," ++ spreadItems level rest

end

/-- The form on several lines. -/
def pretty (value : Diagnostic) : String := value.spread 0

/-- One of the two forms. -/
def render (onLines : Bool) (value : Diagnostic) : String :=
  if onLines then value.pretty else value.compact

end Diagnostic
end Hostlink.Text
