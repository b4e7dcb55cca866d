import Hostlink.Domain.Direction
import Hostlink.Domain.Joining
import Hostlink.Domain.Mapping
import Hostlink.Domain.Punycode
import Hostlink.Text.Composition.Basic
import Hostlink.Text.Category

/-!
# International domain names

The form in which a domain name goes over the net is ASCII.  A name is mapped and composed; a label
beyond ASCII is then written behind a mark that says what it is.  A label that comes in this form is
read, and has to be one that can be written.

Labels can be empty, begin or end with hyphens, and have any length that can be written in a
reasonable time.
-/

namespace Hostlink.Domain

/-- The characters that no name can have. -/
def forbiddenMarks : List Char :=
  [' ', '#', '%', '/', ':', '<', '>', '?', '@', '[', '\\', ']', '^', '|']

/-- Whether no name can have a character. -/
def isForbidden (c : Char) : Bool := c.toNat < 0x20 || c.toNat = 0x7f || c ∈ forbiddenMarks

/-- What a label in ASCII form begins with. -/
def encodedMark : List Char := ['x', 'n', '-', '-']

/-- The most characters of a label that is written. -/
def writeLimit : Nat := 1000

/-- The most digits of a label that is read. -/
def readLimit : Nat := 2000

/-- A label of a name. -/
structure Label where
  /-- The characters for the eye. -/
  shown : List Char
  /-- The characters for the net. -/
  ascii : List Char
  deriving DecidableEq, Repr

/-- A text cut at every point. -/
def splitLabels : List Char → List (List Char)
  | [] => [[]]
  | c :: rest =>
    if c = '.' then [] :: splitLabels rest
    else
      match splitLabels rest with
      | [] => [[c]]
      | label :: labels => (c :: label) :: labels

/-- Whether all characters are ASCII. -/
def isAscii (cs : List Char) : Bool := cs.all (·.toNat < 0x80)

/-- Whether a label beyond ASCII is well formed. -/
def isWellFormed (label : List Char) : Bool :=
  !Text.isMark (label.headD 'x') && joinersFit [] label && label.length ≤ writeLimit

/-- Whether a label that has been read is one that can be written: mapping and composing change
nothing in it. -/
def isNormal (label : List Char) : Bool :=
  !isAscii label && label.all (treatment · = .kept) && Text.compose label = label

/-- Reads a label in ASCII form, its mark included. -/
def readLabel? (text : List Char) : Option Label := do
  let digits := text.drop encodedMark.length
  if !isAscii text || digits.getLast? = some '-' || readLimit < digits.length then none
  else
    let label ← Punycode.decode? digits
    if isNormal label && isWellFormed label then some ⟨label, text⟩ else none

/-- The label that mapped and composed characters are. -/
def label? (cs : List Char) : Option Label :=
  if cs.any isForbidden then none
  else if encodedMark.isPrefixOf cs then readLabel? cs
  else if isAscii cs then some ⟨cs, cs⟩
  else if isWellFormed cs then some ⟨cs, encodedMark ++ Punycode.encode cs⟩
  else none

/-- The ASCII form of a name. -/
def toAscii? (name : List Char) : Option (List Char) := do
  let mapped ← mapped? name
  let labels ← (splitLabels (if isAscii mapped then mapped else Text.compose mapped)).mapM label?
  let shown := labels.map (·.shown)
  if hasTwoDirections shown && !shown.all keepsPlace then none
  else some (['.'].intercalate (labels.map (·.ascii)))

end Hostlink.Domain
