import Hostlink.Pattern.Basic

/-!
# Flags of patterns

Flags say how what is written in a pattern is to be understood.  They can be switched on and off
inside of a pattern, for the rest of a group or for a group of its own.

Without the flag for all characters a pattern is about ASCII.  As texts are made of whole
characters, such a pattern can negate nothing: what is left would be no whole characters.
-/

namespace Hostlink.Pattern

/-- How what is written is to be understood. -/
structure Flags where
  /-- Letters stand for both cases. -/
  anyCase : Bool
  /-- The marks for the beginning and the end of the text are for those of lines. -/
  multiLine : Bool
  /-- A point stands for the end of a line, too. -/
  dotMatchesAll : Bool
  /-- Repetitions are reluctant unless they are marked, not the other way round. -/
  reluctant : Bool
  /-- The pattern is about all characters, not only about ASCII. -/
  unicode : Bool
  /-- Lines can end with a carriage return. -/
  paired : Bool
  /-- Blanks and comments are passed over. -/
  spaced : Bool
  deriving DecidableEq, Repr

/-- A character that is written in a pattern. -/
structure Literal where
  char : Char
  /-- Whether it is written as a byte. -/
  isByte : Bool
  deriving DecidableEq, Repr

/-- Whether the character is ASCII. -/
def Literal.isAscii (l : Literal) : Bool := l.char.toNat < 0x80

namespace Flags

/-- The flags at the beginning of a pattern. -/
def plain : Flags := ⟨false, false, false, false, true, false, false⟩

/-- Switches the flag with a letter. -/
def switch? (f : Flags) (letter : Char) (on : Bool) : Option Flags :=
  match letter with
  | 'i' => some { f with anyCase := on }
  | 'm' => some { f with multiLine := on }
  | 's' => some { f with dotMatchesAll := on }
  | 'U' => some { f with reluctant := on }
  | 'u' => some { f with unicode := on }
  | 'R' => some { f with paired := on }
  | 'x' => some { f with spaced := on }
  | _ => none

/-- Switches flags on, and off behind a hyphen. -/
def switchAll? (f : Flags) (on : Bool) : List Char → Option Flags
  | [] => some f
  | '-' :: rest => switchAll? f false rest
  | letter :: rest => do
    let f ← f.switch? letter on
    switchAll? f on rest

/-- Switches flags; each can be named once, and something has to follow a hyphen. -/
def switched? (f : Flags) (letters : List Char) : Option Flags :=
  if letters.eraseDups.length < letters.length || letters.getLast? = some '-' then none
  else f.switchAll? true letters

/-! ## What is written, under flags -/

/-- The characters that a set stands for where case is of no matter. -/
def widen (f : Flags) (set : CharSet) : CharSet :=
  if !f.anyCase then set
  else if f.unicode then .anyCase set
  else .inter (.anyCase set) .ascii

/-- The set or, if it is negated, all other characters. -/
def negate? (f : Flags) (negated : Bool) (set : CharSet) : Option CharSet :=
  if !negated then some set else if f.unicode then some (.complement set) else none

/-- What a character stands for by itself. -/
def literal? (f : Flags) (l : Literal) : Option CharSet :=
  if f.unicode || l.isAscii then some (f.widen (.single l.char))
  else if l.isByte then none
  else some (.single l.char)

/-- What a range of characters stands for inside of a set. -/
def range? (f : Flags) (low high : Literal) : Option CharSet :=
  if high.char < low.char || !(f.unicode || low.isAscii && high.isAscii) then none
  else some (f.widen (.range low.char.toNat high.char.toNat))

/-- The set that a letter for digits, words or blanks stands for; a capital letter negates it. -/
def shorthand? (f : Flags) (letter : Char) : Option CharSet :=
  f.negate? letter.isUpper <|
    match letter.toLower with
    | 'd' => if f.unicode then .digits else .asciiDigits
    | 'w' => if f.unicode then .words else .asciiWords
    | _ => if f.unicode then .blanks else .asciiBlanks

/-- The characters of a kind. -/
def category? (f : Flags) (negated : Bool) (kind : Text.Category) : Option CharSet :=
  if f.unicode then f.negate? negated (f.widen (.category kind)) else none

/-- The characters with a name. -/
def named? (f : Flags) (negated : Bool) (set : CharSet) : Option CharSet :=
  f.negate? negated (f.widen set)

/-- What a point stands for. -/
def dot? (f : Flags) : Option CharSet :=
  if !f.unicode then none
  else if f.dotMatchesAll then some .all
  else if f.paired then some (.complement (.ofList ['\r', '\n']))
  else some (.complement (.single '\n'))

/-- The place that the mark for the beginning stands for. -/
def startEdge (f : Flags) : Edge :=
  if !f.multiLine then .textStart else if f.paired then .pairedLineStart else .lineStart

/-- The place that the mark for the end stands for. -/
def endEdge (f : Flags) : Edge :=
  if !f.multiLine then .textEnd else if f.paired then .pairedLineEnd else .lineEnd

/-- A repetition by its mark. -/
def repeated (f : Flags) (mark : Char) (marked : Bool) (p : Pattern) : Pattern :=
  let eager := marked == f.reluctant
  match mark with
  | '*' => .many eager p
  | '+' => .seq p (.many eager p)
  | _ => if eager then .either p .empty else .either .empty p

end Flags
end Hostlink.Pattern
