import Hostlink.Text.Blank
import Hostlink.Text.CaseFolding
import Hostlink.Text.Category

/-!
# Sets of characters

Sets are written as expressions, and membership is decided by going through the expression.
-/

namespace Hostlink

/-- A set of characters. -/
inductive CharSet where
  | none
  /-- The code points from `low` to `high`. -/
  | range (low high : Nat)
  | category (kind : Text.Category)
  | digits
  | words
  | blanks
  | union (a b : CharSet)
  | complement (a : CharSet)
  /-- The characters that differ from one of a set in case only, and the set itself. -/
  | anyCase (a : CharSet)
  deriving DecidableEq, Repr

namespace CharSet

/-- Whether a character is in the set. -/
def contains (c : Char) : CharSet → Bool
  | .none => false
  | .range low high => low ≤ c.toNat && c.toNat ≤ high
  | .category kind => Text.Category.of c = kind
  | .digits => Text.isDecimalDigit c
  | .words => Text.isWordCharacter c
  | .blanks => Text.isBlank c
  | .union a b => a.contains c || b.contains c
  | .complement a => !a.contains c
  | .anyCase a => (Text.caseVariants c).any fun d => a.contains d

/-- One character alone. -/
def single (c : Char) : CharSet := .range c.toNat c.toNat

/-- The characters of a list. -/
def ofList (cs : List Char) : CharSet := cs.foldr (fun c set => .union (single c) set) .none

/-- The characters between those of each pair. -/
def ofRanges (ranges : List (Char × Char)) : CharSet :=
  ranges.foldr (fun (low, high) set => .union (.range low.toNat high.toNat) set) .none

/-- The characters of all sets of a list. -/
def unions (sets : List CharSet) : CharSet := sets.foldr .union .none

/-- The characters that are in both sets. -/
def inter (a b : CharSet) : CharSet := .complement (.union (.complement a) (.complement b))

/-- The characters that are in the first set only. -/
def diff (a b : CharSet) : CharSet := inter a (.complement b)

/-- The characters that are in one of the sets only. -/
def symmDiff (a b : CharSet) : CharSet := .union (diff a b) (diff b a)

/-- All characters. -/
def all : CharSet := .complement .none

/-- The ASCII characters. -/
def ascii : CharSet := .range 0 0x7f

theorem contains_inter (c : Char) (a b : CharSet) :
    (inter a b).contains c = (a.contains c && b.contains c) := by
  simp [inter, contains]

theorem contains_diff (c : Char) (a b : CharSet) :
    (diff a b).contains c = (a.contains c && !b.contains c) := by
  simp [diff, contains_inter, contains]

/-! ## Sets of ASCII characters -/

/-- Digits. -/
def asciiDigits : CharSet := .ofRanges [('0', '9')]

/-- Blanks and the ends of lines and pages. -/
def asciiBlanks : CharSet := .union (single ' ') (.ofRanges [('\t', '\r')])

/-- The characters of words. -/
def asciiWords : CharSet := .ofRanges [('0', '9'), ('A', 'Z'), ('_', '_'), ('a', 'z')]

/-- The sets of ASCII characters that have names. -/
def named : List (String × CharSet) :=
  [("alnum", .ofRanges [('0', '9'), ('A', 'Z'), ('a', 'z')]),
    ("alpha", .ofRanges [('A', 'Z'), ('a', 'z')]),
    ("ascii", ascii),
    ("blank", .ofList ['\t', ' ']),
    ("cntrl", .ofRanges [('\x00', '\x1f'), ('\x7f', '\x7f')]),
    ("digit", asciiDigits),
    ("graph", .ofRanges [('!', '~')]),
    ("lower", .ofRanges [('a', 'z')]),
    ("print", .ofRanges [(' ', '~')]),
    ("punct", .ofRanges [('!', '/'), (':', '@'), ('[', '\x60'), ('\x7b', '~')]),
    ("space", asciiBlanks),
    ("upper", .ofRanges [('A', 'Z')]),
    ("word", asciiWords),
    ("xdigit", .ofRanges [('0', '9'), ('A', 'F'), ('a', 'f')])]

/-- The set with a name. -/
def ofName? (name : String) : Option CharSet := (named.find? (·.1 = name)).map (·.2)

end CharSet
end Hostlink
