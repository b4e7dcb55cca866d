import Hostlink.Log.Filter.FieldMatch
import Hostlink.SetupError
import Hostlink.Text.Blank
import Hostlink.Text.Category
import Hostlink.Text.Cut

/-!
# Directives of log filters

A directive gives the least level for what it is about: everything, the targets that begin with a
text, or what happens inside of spans that have a name or a field.  It is written

    target[span{field=value}]=level

and each part can be left out.
-/

namespace Hostlink.Log

/-- The least level that passes; `none` if nothing does. -/
abbrev Threshold := Option Level

/-- Whether a level passes. -/
def Threshold.passes (threshold : Threshold) (level : Level) : Bool :=
  match threshold with
  | none => false
  | some least => least ≤ level

/-- One directive. -/
structure Directive where
  /-- How the targets that it is for begin; every target if there is none. -/
  target : Option String
  /-- The name of the spans that it is about. -/
  span : Option String
  /-- A field of the spans that it is about. -/
  field : Option FieldMatch
  threshold : Threshold
  deriving DecidableEq, Repr

namespace Directive

/-- A directive for targets alone. -/
def forTarget (target : String) (level : Level) : Directive := ⟨some target, none, none, some level⟩

/-- Whether the directive is for a target. -/
def appliesTo (d : Directive) (target : String) : Bool :=
  d.target.all fun start => start.toList.isPrefixOf target.toList

/-- Whether the directive opens up what happens inside of spans. -/
def isDynamic (d : Directive) : Bool := d.span.isSome || d.field.isSome

/-- Whether the directive decides about events and spans by themselves. -/
def isStatic (d : Directive) : Bool := d.span.isNone && d.field.all (·.value.isNone)

/-! ## Reading -/

/-- The level with a number: zero shuts everything off, five lets everything pass. -/
def ofNumber? : Nat → Option Threshold
  | 0 => some none
  | 1 => some (some .error)
  | 2 => some (some .warn)
  | 3 => some (some .info)
  | 4 => some (some .debug)
  | 5 => some (some .trace)
  | _ => none

/-- The level with a name, in whatever case. -/
def ofName? (word : List Char) : Option Threshold :=
  let name := String.ofList (word.map Char.toLower)
  if name = "off" then some none
  else (Level.all.find? (·.lowerName = name)).map some

/-- The level that a word stands for. -/
def threshold? (word : List Char) : Option Threshold :=
  match Expectation.unsigned? word >>= ofNumber? with
  | some threshold => some threshold
  | none => ofName? word

/-- Whether a directive can begin with a character. -/
def canBegin (c : Char) : Bool := c = '-' || c = ':' || c = '_' || Text.isAlphanumeric c

/-- Whether a character ends the target of a directive. -/
def endsTarget (c : Char) : Bool := c = '=' || c = '['

/-- Whether a character ends the name of a span. -/
def endsSpan (c : Char) : Bool := c = ']' || c = '\x7b'

/-- The part of a text between two places in it. -/
def cut (start stop : Nat) (cs : List Char) : Except SetupError (List Char) :=
  (Text.between start stop cs).mapError .brokenCut

/-- Reads the level of a directive.  The whole of the text from a place on has to be a level; with
nothing there every level passes. -/
def readLevel (whole : List Char) (start : Nat) : Except SetupError Threshold := do
  let word ← (Text.suffixFrom start whole).mapError .brokenCut
  if word.isEmpty then return some .trace
  else
    match threshold? word with
    | some threshold => return threshold
    | none => .error .filterLevel

/-- Reads what follows the brackets: nothing, or an equals sign and a level. -/
def readBehindSpan (whole : List Char) (place : Nat) : List Char → Except SetupError Threshold
  | [] => .ok (some .trace)
  | '=' :: _ => readLevel whole (place + 1)
  | _ => .error .filterDirective

/-- The complaint about what should have been a pattern. -/
def complaint : Pattern.Fault → SetupError
  | .malformed => .filterPattern
  | .wideEdge => .filterWordEdge

/-- Reads a field up to the closing brace and the bracket behind it, and then the level. -/
def readField (whole : List Char) (place : Nat) (cs : List Char) :
    Except SetupError (FieldMatch × Threshold) := do
  let inside := cs.takeWhile (· ≠ '\x7d')
  let stop := place + Text.encodedLength inside
  match cs.dropWhile (· ≠ '\x7d') with
  | [] => .error .filterDirective
  | _ :: rest =>
    let written ← cut place stop whole
    if written.isEmpty then .error .filterDirective
    else
      let field ← (FieldMatch.ofChars written).mapError complaint
      match rest with
      | ']' :: rest =>
        let threshold ← readBehindSpan whole (stop + 2) rest
        return (field, threshold)
      | _ => .error .filterDirective

/-- Reads what stands behind the opening bracket, for a directive with the given target.  With a
field the name of the span can be left out; without one the empty name is a name. -/
def readSpan (whole : List Char) (target : Option String) (place : Nat) (cs : List Char) :
    Except SetupError Directive := do
  let inside := cs.takeWhile fun c => !endsSpan c
  let stop := place + Text.encodedLength inside
  match cs.dropWhile fun c => !endsSpan c with
  | [] => .error .filterDirective
  | ']' :: rest =>
    let name ← cut place stop whole
    let threshold ← readBehindSpan whole (stop + 1) rest
    return ⟨target, some (String.ofList name), none, threshold⟩
  | _ :: rest =>
    let name ← cut place stop whole
    let (field, threshold) ← readField whole (stop + 1) rest
    let span := if name.isEmpty then none else some (String.ofList name)
    return ⟨target, span, some field, threshold⟩

/-- Reads one directive.  A bare word is a level for everything or else a target at every level.
Blanks around a directive are passed over in the search for the marks between its parts, but not in
the cuts that are made there. -/
def ofChars (whole : List Char) : Except SetupError Directive := do
  match ((Text.trimStart whole).reverse.dropWhile Text.isBlank).reverse with
  | [] => .error .filterDirective
  | '[' :: rest => readSpan whole none 1 rest
  | first :: rest =>
    if !canBegin first then .error .filterDirective
    else
      let inner := first :: rest
      let stop := Text.encodedLength (inner.takeWhile fun c => !endsTarget c)
      match inner.dropWhile fun c => !endsTarget c with
      | [] =>
        match threshold? whole with
        | some threshold => return ⟨none, none, none, threshold⟩
        | none => return ⟨some (String.ofList whole), none, none, some .trace⟩
      | mark :: rest =>
        let target ← cut 0 stop whole
        if mark = '=' then
          let threshold ← readLevel whole (stop + 1)
          return ⟨some (String.ofList target), none, none, threshold⟩
        else readSpan whole (some (String.ofList target)) (stop + 1) rest

end Directive
end Hostlink.Log
