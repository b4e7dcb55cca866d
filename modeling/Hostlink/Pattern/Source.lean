import Hostlink.Pattern.Flags
import Hostlink.Text.Hex

/-!
# Patterns as they are written

The characters of a pattern are read one after the other, under flags that change on the way.
-/

namespace Hostlink.Pattern

/-- A written pattern, a part of which has been read. -/
structure Source where
  /-- What has not been read yet. -/
  rest : List Char
  flags : Flags
  /-- The names of the groups so far. -/
  names : List String
  /-- Whether an edge of words beyond ASCII has been asked for. -/
  asksWideEdge : Bool
  deriving DecidableEq, Repr

/-- Reads from a written pattern; nothing if it is malformed. -/
abbrev Reader := StateT Source Option

/-- Drops blanks and comments at the front. -/
def skipSpace (inComment : Bool) : List Char → List Char
  | [] => []
  | c :: rest =>
    if inComment then skipSpace (c ≠ '\n') rest
    else if c = '#' then skipSpace true rest
    else if Text.isBlank c then skipSpace false rest
    else c :: rest

/-- What is left behind the blanks and comments at the front, where they are passed over. -/
def Source.ahead (s : Source) (cs : List Char) : List Char :=
  if s.flags.spaced then skipSpace false cs else cs

namespace Reader

/-- The value, if there is one. -/
def lift {α : Type} (value : Option α) : Reader α := StateT.lift value

/-- Passes over blanks and comments, where that is to be done. -/
def skip : Reader Unit := modify fun s => { s with rest := s.ahead s.rest }

/-- Reads a character. -/
def next : Reader Char := do
  let s ← get
  match s.rest with
  | [] => failure
  | c :: rest =>
    set { s with rest }
    return c

/-- Reads characters if they come next. -/
def accept (cs : List Char) : Reader Bool := do
  let s ← get
  if cs.isPrefixOf s.rest then
    set { s with rest := s.rest.drop cs.length }
    return true
  else return false

end Reader

/-! ## Single characters and what is written like one -/

/-- What is written with one character, or with a backslash. -/
inductive Primitive where
  | literal (l : Literal)
  | set (chars : CharSet)
  | place (edge : Edge)
  /-- An edge of words beyond ASCII. -/
  | wideEdge
  deriving DecidableEq, Repr

namespace Primitive

/-- The character that an escaped letter stands for. -/
def control? : Char → Option Char
  | 'a' => some '\x07'
  | 'f' => some '\x0c'
  | 'n' => some '\n'
  | 'r' => some '\r'
  | 't' => some '\t'
  | 'v' => some '\x0b'
  | _ => none

/-- Whether a character stands for itself behind a backslash. -/
def isEscapable (c : Char) : Bool :=
  c.toNat < 0x80 && !c.isAlphanum && c ≠ '<' && c ≠ '>'

/-- Reads digits of base sixteen, with blanks between them. -/
def readHexDigits : Nat → Reader (List Nat)
  | 0 => return []
  | count + 1 => do
    Reader.skip
    let c ← Reader.next
    let digit ← Reader.lift (Text.hexValue? c)
    let digits ← readHexDigits count
    return digit :: digits

/-- Reads a character that is written by its code point. -/
def readCode (count : Nat) : Reader Primitive := do
  let digits ← readHexDigits count
  Reader.skip
  let code := digits.foldl (fun code digit => code * 16 + digit) 0
  if code.isValidChar then return .literal ⟨Char.ofNat code, count = 2⟩ else failure

/-- An edge of words. -/
def wordPlace (f : Flags) (edge : Edge) : Primitive := if f.unicode then .wideEdge else .place edge

/-- Reads what stands behind a backslash. -/
def readEscaped : Reader Primitive := do
  let s ← get
  let c ← Reader.next
  match c with
  | 'x' => readCode 2
  | 'u' => readCode 4
  | 'U' => readCode 8
  | 'p' | 'P' =>
    Reader.skip
    let name ← Reader.next
    Reader.skip
    let kind ← Reader.lift (Text.Category.ofName? name)
    let chars ← Reader.lift (s.flags.category? (c = 'P') kind)
    return .set chars
  | 'd' | 'D' | 's' | 'S' | 'w' | 'W' =>
    let chars ← Reader.lift (s.flags.shorthand? c)
    return .set chars
  | 'A' => return .place .textStart
  | 'z' => return .place .textEnd
  | 'b' => return wordPlace s.flags .wordEdge
  | 'B' => return wordPlace s.flags .noWordEdge
  | '<' => return wordPlace s.flags .wordStart
  | '>' => return wordPlace s.flags .wordEnd
  | c =>
    match control? c with
    | some control => return .literal ⟨control, false⟩
    | none => if isEscapable c then return .literal ⟨c, false⟩ else failure

/-- Reads a character of a set. -/
def readMember : Reader Primitive := do
  let c ← Reader.next
  if c = '\\' then readEscaped else return .literal ⟨c, false⟩

/-- Reads what is neither a group nor a set in brackets. -/
def read : Reader Primitive := do
  let s ← get
  let c ← Reader.next
  match c with
  | '\\' => readEscaped
  | '.' =>
    let chars ← Reader.lift s.flags.dot?
    return .set chars
  | '^' => return .place s.flags.startEdge
  | '$' => return .place s.flags.endEdge
  | c => return .literal ⟨c, false⟩

/-- The pattern for something primitive. -/
def toPattern (f : Flags) : Primitive → Option Pattern
  | .literal l => (f.literal? l).map .one
  | .set chars => some (.one chars)
  | .place edge => some (.place edge)
  | .wideEdge => some .empty

/-- What something primitive stands for inside of a set. -/
def toMember (f : Flags) : Primitive → Option CharSet
  | .literal l => f.range? l l
  | .set chars => some chars
  | .place _ | .wideEdge => none

end Primitive
end Hostlink.Pattern
