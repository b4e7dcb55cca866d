import Hostlink.Domain.DirectionTable

/-!
# Names in two writing directions

When some label of a name is written from right to left, the parts of the name must not change
places on the screen.  So each label has to begin with a letter, which decides about its direction,
and can then have only the classes of characters that keep their place in that direction.
-/

namespace Hostlink.Domain

/-- The directional classes. -/
inductive Direction where
  | leftToRight
  | rightToLeft
  | arabicLetter
  | europeanDigit
  | arabicDigit
  | betweenDigits
  | besideDigits
  | separator
  | mark
  | withoutWidth
  | neutral
  deriving DecidableEq, Repr

namespace Direction

/-- The class with a letter in the table. -/
def ofLabel : Char → Direction
  | 'l' => .leftToRight
  | 'r' => .rightToLeft
  | 'a' => .arabicLetter
  | 'e' => .europeanDigit
  | 'n' => .arabicDigit
  | 's' => .betweenDigits
  | 't' => .besideDigits
  | 'c' => .separator
  | 'm' => .mark
  | 'b' => .withoutWidth
  | _ => .neutral

/-- The class of a character. -/
def of (c : Char) : Direction := ofLabel (directionTable.label c)

/-- Whether a name with the class has two directions. -/
def turns (d : Direction) : Bool := d ∈ [.rightToLeft, .arabicLetter, .arabicDigit]

/-- Whether a label from left to right can have the class. -/
def goesRight (d : Direction) : Bool := d ∉ [.rightToLeft, .arabicLetter, .arabicDigit]

/-- Whether a label from right to left can have the class. -/
def goesLeft (d : Direction) : Bool := d ≠ .leftToRight

/-- Whether a label from left to right can end in the class. -/
def endsRight (d : Direction) : Bool := d ∈ [.leftToRight, .europeanDigit]

/-- Whether a label from right to left can end in the class. -/
def endsLeft (d : Direction) : Bool :=
  d ∈ [.rightToLeft, .arabicLetter, .europeanDigit, .arabicDigit]

end Direction

/-- Whether a label keeps its place in a name with two directions.  Marks at its end do not
count. -/
def keepsPlace (label : List Char) : Bool :=
  match ((label.map Direction.of).reverse.dropWhile (· = .mark)).reverse, label with
  | [], label => label.isEmpty
  | first :: rest, _ =>
    let last := rest.getLastD first
    if first = .leftToRight then rest.all (·.goesRight) && last.endsRight
    else if first = .rightToLeft ∨ first = .arabicLetter then
      rest.all (·.goesLeft) && last.endsLeft
        && !(rest.contains .europeanDigit && rest.contains .arabicDigit)
    else false

/-- Whether a name has two directions. -/
def hasTwoDirections (labels : List (List Char)) : Bool :=
  labels.any fun label => label.any fun c => 0x80 ≤ c.toNat && (Direction.of c).turns

end Hostlink.Domain
