/-!
# Reading decimals

The usual written form of a double-precision number: a sign, digits with a point among them or
beside them, an exponent; or a word for infinity or for no number.  The number is the one nearest
to what is written.
-/

namespace Hostlink.Decimal

/-- A written number without its sign. -/
inductive Reading where
  | infinite
  | notANumber
  /-- `digits · 10 ^ place`. -/
  | finite (digits : Nat) (place : Int)
  deriving DecidableEq, Repr

/-- Takes a sign off the front; tells whether it is a minus. -/
def splitSign : List Char → Bool × List Char
  | '-' :: rest => (true, rest)
  | '+' :: rest => (false, rest)
  | cs => (false, cs)

/-- The exponent that stands behind the digits, zero if there is none. -/
def readExponent? : List Char → Option Int
  | [] => some 0
  | mark :: rest =>
    let (negative, digits) := splitSign rest
    if mark.toLower ≠ 'e' || digits.isEmpty || !digits.all Char.isDigit then none
    else
      let value : Int := Nat.ofDigitChars 10 digits 0
      some (if negative then -value else value)

/-- Reads a number behind its sign. -/
def readUnsigned? (cs : List Char) : Option Reading :=
  let word := String.ofList (cs.map Char.toLower)
  if word = "inf" ∨ word = "infinity" then some .infinite
  else if word = "nan" then some .notANumber
  else
    let whole := cs.takeWhile Char.isDigit
    let rest := cs.dropWhile Char.isDigit
    let (fraction, rest) :=
      match rest with
      | '.' :: rest => (rest.takeWhile Char.isDigit, rest.dropWhile Char.isDigit)
      | rest => ([], rest)
    if whole.isEmpty && fraction.isEmpty then none
    else
      (readExponent? rest).map fun exponent =>
        .finite (Nat.ofDigitChars 10 (whole ++ fraction) 0) (exponent - fraction.length)

/-- Beyond this place of the leading digit every number is infinite, and as far below the point
every number is zero. -/
def placeLimit : Int := 400

/-- The magnitude that is written. -/
def Reading.toFloat : Reading → Float
  | .infinite => 1.0 / 0.0
  | .notANumber => 0.0 / 0.0
  | .finite digits place =>
    let leading := place + (Nat.toDigits 10 digits).length
    if digits = 0 ∨ leading < -placeLimit then 0.0
    else if placeLimit < leading then 1.0 / 0.0
    else Float.ofScientific digits (place < 0) place.natAbs

/-- The number that characters write. -/
def ofChars? (cs : List Char) : Option Float :=
  let (negative, cs) := splitSign cs
  (readUnsigned? cs).map fun reading => if negative then -reading.toFloat else reading.toFloat

end Hostlink.Decimal
