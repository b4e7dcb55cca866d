import Hostlink.Json.Tree
import Hostlink.Text.Hex

/-!
# Reading JSON texts

A reader by recursive descent from characters to trees.  Each step hands on the characters that
it has not used.  The descent is bounded by a count that grows with the text, so the bound is
never the reason for a failure.
-/

namespace Hostlink.Json

/-- The characters allowed between tokens. -/
def isBlank (c : Char) : Bool := c = ' ' || c = '\n' || c = '\t' || c = '\r'

/-- Drops the blanks at the front. -/
def skipBlanks (cs : List Char) : List Char := cs.dropWhile isBlank

/-- A decimal digit. -/
def isDigit (c : Char) : Bool := '0' ≤ c && c ≤ '9'

/-- The unit that four hexadecimal digits spell. -/
def unitOf? (a b c d : Char) : Option Nat := do
  let a ← Text.hexValue? a
  let b ← Text.hexValue? b
  let c ← Text.hexValue? c
  let d ← Text.hexValue? d
  return a * 0x1000 + b * 0x100 + c * 0x10 + d

/-- The character of a short escape. -/
def shortEscape? : Char → Option Char
  | '"' => some '"'
  | '\\' => some '\\'
  | '/' => some '/'
  | 'b' => some '\x08'
  | 'f' => some '\x0c'
  | 'n' => some '\n'
  | 'r' => some '\r'
  | 't' => some '\t'
  | _ => none

/-- Reads a string literal behind its opening quote. -/
def readString : List Char → Option (List StringPart × List Char)
  | [] => none
  | '"' :: rest => some ([], rest)
  | '\\' :: 'u' :: a :: b :: c :: d :: rest => do
    let code ← unitOf? a b c d
    let (parts, rest) ← readString rest
    return (.unit code :: parts, rest)
  | '\\' :: e :: rest => do
    let c ← shortEscape? e
    let (parts, rest) ← readString rest
    return (.char c :: parts, rest)
  | c :: rest =>
    if c = '\\' || c.toNat < 0x20 then none
    else (readString rest).map fun (parts, rest) => (.char c :: parts, rest)

/-- Reads the part of a number behind the point, if it has one. -/
def readFraction : List Char → Option (Option (List Char) × List Char)
  | '.' :: rest =>
    let digits := rest.takeWhile isDigit
    if digits.isEmpty then none else some (some digits, rest.dropWhile isDigit)
  | cs => some (none, cs)

/-- Reads an exponent behind its mark. -/
def readExponentDigits (negative : Bool) (cs : List Char) :
    Option (Option (Bool × List Char) × List Char) :=
  let digits := cs.takeWhile isDigit
  if digits.isEmpty then none else some (some (negative, digits), cs.dropWhile isDigit)

/-- Reads the exponent of a number, if it has one. -/
def readExponent : List Char → Option (Option (Bool × List Char) × List Char)
  | 'e' :: rest | 'E' :: rest =>
    match rest with
    | '+' :: rest => readExponentDigits false rest
    | '-' :: rest => readExponentDigits true rest
    | _ => readExponentDigits false rest
  | cs => some (none, cs)

/-- Reads a number behind its sign. -/
def readUnsigned (negative : Bool) (cs : List Char) : Option (NumberText × List Char) := do
  let digits := cs.takeWhile isDigit
  if digits.isEmpty then none
  else if digits.head? = some '0' && digits.length > 1 then none
  else
    let (fraction, rest) ← readFraction (cs.dropWhile isDigit)
    let (exponent, rest) ← readExponent rest
    return (⟨negative, digits, fraction, exponent⟩, rest)

/-- Reads a number. -/
def readNumber : List Char → Option (NumberText × List Char)
  | '-' :: rest => readUnsigned true rest
  | cs => readUnsigned false cs

mutual

/-- Reads one value and what stands before it. -/
def readValue : Nat → List Char → Option (Tree × List Char)
  | 0, _ => none
  | fuel + 1, cs =>
    match skipBlanks cs with
    | 'n' :: 'u' :: 'l' :: 'l' :: rest => some (.null, rest)
    | 't' :: 'r' :: 'u' :: 'e' :: rest => some (.bool true, rest)
    | 'f' :: 'a' :: 'l' :: 's' :: 'e' :: rest => some (.bool false, rest)
    | '"' :: rest => (readString rest).map fun (parts, rest) => (.string parts, rest)
    | '[' :: rest =>
      match skipBlanks rest with
      | ']' :: rest => some (.array [], rest)
      | _ => (readItems fuel rest).map fun (items, rest) => (.array items, rest)
    | '\x7b' :: rest =>
      match skipBlanks rest with
      | '\x7d' :: rest => some (.object [], rest)
      | _ => (readMembers fuel rest).map fun (members, rest) => (.object members, rest)
    | cs => (readNumber cs).map fun (text, rest) => (.number text, rest)

/-- Reads the items of a non-empty array and its closing bracket. -/
def readItems : Nat → List Char → Option (List Tree × List Char)
  | 0, _ => none
  | fuel + 1, cs => do
    let (item, rest) ← readValue fuel cs
    match skipBlanks rest with
    | ',' :: rest =>
      let (items, rest) ← readItems fuel rest
      return (item :: items, rest)
    | ']' :: rest => return ([item], rest)
    | _ => none

/-- Reads the members of a non-empty object and its closing brace. -/
def readMembers : Nat → List Char → Option (List (List StringPart × Tree) × List Char)
  | 0, _ => none
  | fuel + 1, cs =>
    match skipBlanks cs with
    | '"' :: rest => do
      let (key, rest) ← readString rest
      match skipBlanks rest with
      | ':' :: rest =>
        let (value, rest) ← readValue fuel rest
        match skipBlanks rest with
        | ',' :: rest =>
          let (members, rest) ← readMembers fuel rest
          return ((key, value) :: members, rest)
        | '\x7d' :: rest => return ([(key, value)], rest)
        | _ => none
      | _ => none
    | _ => none

end

/-- The tree of a whole text: one value, with nothing but blanks around it. -/
def Tree.read? (cs : List Char) : Option Tree := do
  let (tree, rest) ← readValue (2 * cs.length + 2) cs
  if (skipBlanks rest).isEmpty then some tree else none

/-- The tree of a whole text. -/
def Tree.ofString? (text : String) : Option Tree := Tree.read? text.toList

end Hostlink.Json
