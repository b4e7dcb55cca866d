/-!
# Labels beyond ASCII

A label of a domain name with characters beyond ASCII is written in ASCII: first its ASCII
characters, then numbers that tell where the others go.  The characters come in the order of their
code points, and each number counts the steps from one insertion to the next, through all places of
the label for each code point.  The numbers are written in digits of base 36, the lowest first, with
a threshold for each digit that tells the last one; the thresholds adapt to the numbers before.
-/

namespace Hostlink.Domain.Punycode

/-- The number of digits. -/
def base : Nat := 36

/-- The least threshold. -/
def leastThreshold : Nat := 1

/-- The greatest threshold. -/
def greatestThreshold : Nat := 26

/-- The bias before the first number. -/
def firstBias : Nat := 72

/-- The first code point beyond ASCII. -/
def firstCode : Nat := 0x80

/-- The words in which the numbers are kept; a label whose numbers do not fit is not read. -/
def wordLimit : Nat := Nat.pow 2 32

/-- The threshold of a digit; `weight` is `base` for the first digit, twice that for the second, and
so on. -/
def threshold (weight bias : Nat) : Nat :=
  min greatestThreshold (max leastThreshold (weight - bias))

theorem threshold_pos (weight bias : Nat) : 1 ≤ threshold weight bias := by
  simp only [threshold, greatestThreshold, leastThreshold]; omega

/-- Divides a number until it is small; the second part counts the divisions, `base` for each. -/
def shrink (delta count : Nat) : Nat × Nat :=
  if 455 < delta then shrink (delta / 35) (count + base) else (delta, count)
termination_by delta
decreasing_by exact Nat.div_lt_self (by omega) (by omega)

/-- The bias after a number, for a label of a length so far. -/
def adapt (delta length : Nat) (isFirst : Bool) : Nat :=
  let delta := if isFirst then delta / 700 else delta / 2
  let (delta, count) := shrink (delta + delta / length) 0
  count + base * delta / (delta + 38)

/-- The digit for a number below 36. -/
def digitChar (digit : Nat) : Char :=
  if digit < 26 then Char.ofNat ('a'.toNat + digit) else Char.ofNat ('0'.toNat + digit - 26)

/-- The number of a digit. -/
def digitValue? (c : Char) : Option Nat :=
  if 'a' ≤ c ∧ c ≤ 'z' then some (c.toNat - 'a'.toNat)
  else if '0' ≤ c ∧ c ≤ '9' then some (c.toNat - '0'.toNat + 26)
  else none

/-! ## Writing -/

/-- The digits of a number. -/
def writeNumber (bias weight number : Nat) : List Char :=
  let t := threshold weight bias
  if number < t then [digitChar number]
  else
    digitChar (t + (number - t) % (base - t))
      :: writeNumber bias (weight + base) ((number - t) / (base - t))
termination_by number
decreasing_by
  have := threshold_pos weight bias
  have : (number - threshold weight bias) / (base - threshold weight bias)
      ≤ number - threshold weight bias := Nat.div_le_self _ _
  omega

/-- The progress of writing. -/
structure Writing where
  /-- The digits so far, the last ones first. -/
  digits : List Char
  delta : Nat
  bias : Nat
  /-- How many characters are written. -/
  handled : Nat

/-- Goes past one character of the label while the characters with a code point are written. -/
def Writing.pass (code basic : Nat) (w : Writing) (c : Char) : Writing :=
  if c.toNat < code then { w with delta := w.delta + 1 }
  else if c.toNat = code then
    ⟨(writeNumber w.bias base w.delta).reverse ++ w.digits, 0,
      adapt w.delta (w.handled + 1) (w.handled = basic), w.handled + 1⟩
  else w

/-- Writes the characters with the given code points, in their order; `reached` is where the count
stands. -/
def writeCodes (label : List Char) (basic : Nat) (reached : Nat) (w : Writing) :
    List Nat → Writing
  | [] => w
  | code :: rest =>
    let w := { w with delta := w.delta + (code - reached) * (w.handled + 1) }
    let w := label.foldl (Writing.pass code basic) w
    writeCodes label basic (code + 1) { w with delta := w.delta + 1 } rest

/-- The ASCII form of a label, without the mark that says that it is one. -/
def encode (label : List Char) : List Char :=
  let basic := label.filter (·.toNat < firstCode)
  let codes := ((label.map (·.toNat)).filter (firstCode ≤ ·)).mergeSort.eraseDups
  let w := writeCodes label basic.length firstCode ⟨[], 0, firstBias, basic.length⟩ codes
  basic ++ (if basic.isEmpty then [] else ['-']) ++ w.digits.reverse

/-! ## Reading -/

/-- Reads one number and adds it to `sum`; the second part are the digits behind it. -/
def readNumber (bias weight factor sum : Nat) : List Char → Option (Nat × List Char)
  | [] => none
  | c :: rest => do
    let digit ← digitValue? c
    let sum := sum + digit * factor
    let t := threshold weight bias
    if wordLimit ≤ sum then none
    else if digit < t then some (sum, rest)
    else
      let factor := factor * (base - t)
      if wordLimit ≤ factor then none else readNumber bias (weight + base) factor sum rest

/-- Inserts characters for as long as there are digits; `place` counts from the insertion before,
and `code` is the code point reached.  The bound is a number of digits that is not exceeded. -/
def readInsertions : Nat → (code place bias : Nat) → (label digits : List Char) → Option (List Char)
  | _, _, _, _, label, [] => some label
  | 0, _, _, _, _, _ :: _ => none
  | bound + 1, code, place, bias, label, digits => do
    let (sum, rest) ← readNumber bias base 1 place digits
    let size := label.length + 1
    let code := code + sum / size
    if code.isValidChar then
      let label := label.take (sum % size) ++ Char.ofNat code :: label.drop (sum % size)
      readInsertions bound code (sum % size + 1) (adapt (sum - place) size (place = 0)) label rest
    else none

/-- The label that its ASCII form stands for. -/
def decode? (text : List Char) : Option (List Char) :=
  let digits := (text.reverse.takeWhile (· ≠ '-')).reverse
  let basic := text.take (text.length - digits.length - 1)
  if digits.length < text.length && basic.isEmpty then none
  else readInsertions digits.length firstCode 0 firstBias basic digits

end Hostlink.Domain.Punycode
