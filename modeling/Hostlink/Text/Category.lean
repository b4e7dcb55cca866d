import Hostlink.Text.CategoryTable

/-!
# Kinds of characters

What a character is for: a letter, a mark that goes with the character before it, a number,
punctuation, a symbol, or what separates words.  Alphabets are made of letters, and of those marks
and symbols that stand for letters.
-/

namespace Hostlink.Text

/-- The kinds of characters that have a name of one letter. -/
inductive Category where
  | letter
  | mark
  | number
  | punctuation
  | symbol
  | separator
  | other
  deriving DecidableEq, Repr

namespace Category

/-- The kind with a name. -/
def ofName? : Char → Option Category
  | 'L' | 'l' => some .letter
  | 'M' | 'm' => some .mark
  | 'N' | 'n' => some .number
  | 'P' | 'p' => some .punctuation
  | 'S' | 's' => some .symbol
  | 'Z' | 'z' => some .separator
  | 'C' | 'c' => some .other
  | _ => none

/-- The kind that a letter of the table says. -/
def ofLabel : Char → Category
  | 'L' => .letter
  | 'M' | 'm' => .mark
  | 'D' | 'N' | 'O' => .number
  | 'C' | 'P' => .punctuation
  | 'S' | 's' => .symbol
  | 'Z' => .separator
  | _ => .other

/-- The kind of a character. -/
def of (c : Char) : Category := .ofLabel (categoryTable.label c)

end Category

/-- Whether `c` is a mark. -/
def isMark (c : Char) : Bool := Category.of c = .mark

/-- Whether `c` is one of the digits from zero to nine in some script. -/
def isDecimalDigit (c : Char) : Bool := categoryTable.label c = 'D'

/-- Whether `c` is part of an alphabet. -/
def isAlphabetic (c : Char) : Bool := categoryTable.label c ∈ ['L', 'N', 'm', 's']

/-- Whether `c` is part of an alphabet or a number.  The table is not asked for Latin letters and
digits. -/
def isAlphanumeric (c : Char) : Bool :=
  c.isAlphanum || isAlphabetic c || Category.of c = .number

/-- Keeps letters apart that would join. -/
def nonJoiner : Char := Char.ofNat 0x200c

/-- Joins letters. -/
def joiner : Char := Char.ofNat 0x200d

/-- Whether `c` can be in a word: words are made of alphabets, marks, digits, the punctuation that
connects, and joiners. -/
def isWordCharacter (c : Char) : Bool :=
  isAlphabetic c || isMark c || categoryTable.label c ∈ ['D', 'C'] || c = joiner || c = nonJoiner

end Hostlink.Text
