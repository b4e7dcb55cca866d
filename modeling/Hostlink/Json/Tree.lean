/-!
# The tree of a JSON text

What a JSON text says before anything is decided about it: numbers are still written numbers and
strings still carry their escapes.  A reader that skips a part of a text needs no more than this.
-/

namespace Hostlink.Json

/-- One item of a string literal. -/
inductive StringPart where
  /-- A character, written plainly or by a short escape. -/
  | char (c : Char)
  /-- A 16-bit unit written with four hexadecimal digits. -/
  | unit (code : Nat)
  deriving DecidableEq, Repr

/-- A number as it is written. -/
structure NumberText where
  negative : Bool
  whole : List Char
  /-- The digits behind the point, if there is one. -/
  fraction : Option (List Char)
  /-- Whether the exponent is negative, and its digits. -/
  exponent : Option (Bool × List Char)
  deriving DecidableEq, Repr

/-- A JSON text, read but not interpreted. -/
inductive Tree where
  | null
  | bool (value : Bool)
  | number (text : NumberText)
  | string (parts : List StringPart)
  | array (items : List Tree)
  | object (members : List (List StringPart × Tree))
  deriving Repr

/-! ## Strings -/

/-- Whether a unit begins a surrogate pair. -/
def isHighSurrogate (code : Nat) : Bool := 0xd800 ≤ code && code < 0xdc00

/-- Whether a unit ends a surrogate pair. -/
def isLowSurrogate (code : Nat) : Bool := 0xdc00 ≤ code && code < 0xe000

/-- The characters of a string literal; `none` if a surrogate has no partner. -/
def charsOf? : List StringPart → Option (List Char)
  | [] => some []
  | .char c :: rest => (c :: ·) <$> charsOf? rest
  | .unit high :: .unit low :: rest =>
    if isHighSurrogate high then
      if isLowSurrogate low then
        (Char.ofNat (0x10000 + (high - 0xd800) * 0x400 + (low - 0xdc00)) :: ·) <$> charsOf? rest
      else none
    else if isLowSurrogate high then none
    else (Char.ofNat high :: ·) <$> charsOf? (.unit low :: rest)
  | .unit code :: rest =>
    if isHighSurrogate code || isLowSurrogate code then none
    else (Char.ofNat code :: ·) <$> charsOf? rest

/-- The text of a string literal; `none` if a surrogate has no partner. -/
def textOf? (parts : List StringPart) : Option String := String.ofList <$> charsOf? parts

/-! ## Nesting -/

mutual

/-- How deeply arrays and objects are nested. -/
def Tree.depth : Tree → Nat
  | .array items => 1 + itemsDepth items
  | .object members => 1 + membersDepth members
  | _ => 0

/-- The greatest depth of a list of items. -/
def itemsDepth : List Tree → Nat
  | [] => 0
  | item :: rest => max item.depth (itemsDepth rest)

/-- The greatest depth of the values of a list of members. -/
def membersDepth : List (List StringPart × Tree) → Nat
  | [] => 0
  | (_, value) :: rest => max value.depth (membersDepth rest)

end

end Hostlink.Json
