import Hostlink.Text.Blank
import Hostlink.Time.Instant

/-!
# Timestamps as text

Instants are written as `2024-02-29T12:34:56Z`, with a fraction of three, six or nine digits where
it is needed.  The reader is more liberal than the writer: it accepts blanks between the parts,
short numbers, any length of fraction and any offset below a day.
-/

namespace Hostlink.Time

/-! ## Writing -/

/-- A natural number with leading zeros up to a width. -/
def padded (width n : Nat) : List Char :=
  let digits := Nat.toDigits 10 n
  List.replicate (width - digits.length) '0' ++ digits

/-- A year: four digits, or a sign and at least four digits outside of 0 to 9999. -/
def writeYear (year : Int) : List Char :=
  if 0 ≤ year ∧ year ≤ 9999 then padded 4 year.toNat
  else (if year < 0 then '-' else '+') :: padded 4 year.natAbs

/-- A date. -/
def Date.write (date : Date) : List Char :=
  writeYear date.year ++ '-' :: (padded 2 date.month ++ '-' :: padded 2 date.day)

/-- A time of day; a leap second counts as second sixty. -/
def writeClock (t : Instant) : List Char :=
  let second := t.secondOfDay
  let leap := t.nanos / nanosPerSecond
  padded 2 (second / 3600) ++ ':' :: (padded 2 (second / 60 % 60)
    ++ ':' :: padded 2 (second % 60 + leap))

/-- A fraction of a second, in the fewest groups of three digits that are exact. -/
def writeFraction (nanos : Nat) : List Char :=
  if nanos = 0 then []
  else if nanos % 1000000 = 0 then '.' :: padded 3 (nanos / 1000000)
  else if nanos % 1000 = 0 then '.' :: padded 6 (nanos / 1000)
  else '.' :: padded 9 nanos

/-- An instant in universal time. -/
def Instant.write (t : Instant) : List Char :=
  t.date.write ++ 'T' :: (writeClock t ++ (writeFraction (t.nanos % nanosPerSecond) ++ ['Z']))

/-- An instant in universal time. -/
def Instant.render (t : Instant) : String := String.ofList t.write

/-- An instant for people: a blank between date and time, and always three digits of fraction. -/
def Instant.renderMillis (t : Instant) : String :=
  String.ofList (t.date.write ++ ' ' :: (writeClock t
    ++ '.' :: padded 3 (t.nanos % nanosPerSecond / 1000000)))

/-! ## Reading -/

/-- A decimal digit. -/
def isDigit (c : Char) : Bool := '0' ≤ c && c ≤ '9'

/-- Reads a number of at least one and at most `width` digits. -/
def readDigits (width : Nat) (cs : List Char) : Option (Nat × List Char) :=
  let digits := (cs.take width).takeWhile isDigit
  if digits.isEmpty then none
  else some (Nat.ofDigitChars 10 digits 0, cs.drop digits.length)

/-- Reads a number of at least one digit. -/
def readLongDigits (cs : List Char) : Option (Nat × List Char) :=
  let digits := cs.takeWhile isDigit
  if digits.isEmpty then none
  else some (Nat.ofDigitChars 10 digits 0, cs.dropWhile isDigit)

/-- Reads a number of one or two digits behind blanks. -/
def readPart (cs : List Char) : Option (Nat × List Char) := readDigits 2 (Text.trimStart cs)

/-- Reads a year behind blanks: up to four digits, or any number of them behind a sign. -/
def readYear (cs : List Char) : Option (Int × List Char) :=
  match Text.trimStart cs with
  | '-' :: rest => (readLongDigits rest).map fun (n, rest) => (-(n : Int), rest)
  | '+' :: rest => (readLongDigits rest).map fun (n, rest) => ((n : Int), rest)
  | cs => (readDigits 4 cs).map fun (n, rest) => ((n : Int), rest)

/-- Passes over a mark behind blanks. -/
def passMark (mark : Char) (cs : List Char) : Option (List Char) :=
  match Text.trimStart cs with
  | c :: rest => if c = mark then some rest else none
  | [] => none

/-- Reads a fraction of a second, if there is one, in nanoseconds; digits past the ninth do not
count. -/
def readFraction (cs : List Char) : Option (Nat × List Char) :=
  match cs with
  | '.' :: rest =>
    let digits := rest.takeWhile isDigit
    let used := digits.take 9
    if digits.isEmpty then none
    else some (Nat.ofDigitChars 10 used 0 * Nat.pow 10 (9 - used.length), rest.dropWhile isDigit)
  | _ => some (0, cs)

/-- Reads an offset behind its sign: two digits of hours, any colons and blanks, two digits of
minutes. -/
def readOffsetParts (sign : Int) (cs : List Char) : Option (Int × List Char) :=
  match cs with
  | a :: b :: rest =>
    match rest.dropWhile fun c => c = ':' || Text.isBlank c with
    | c :: d :: rest =>
      if isDigit a && isDigit b && isDigit c && isDigit d && c ≤ '5' then
        let hours := Nat.ofDigitChars 10 [a, b] 0
        let minutes := Nat.ofDigitChars 10 [c, d] 0
        some (sign * (hours * 3600 + minutes * 60 : Nat), rest)
      else none
    | _ => none
  | _ => none

/-- Reads an offset from universal time in seconds. -/
def readOffset (cs : List Char) : Option (Int × List Char) :=
  match cs with
  | 'Z' :: rest | 'z' :: rest => some (0, rest)
  | '+' :: rest => readOffsetParts 1 rest
  | '-' :: rest | '\u2212' :: rest => readOffsetParts (-1) rest
  | a :: b :: c :: rest =>
    if [a, b, c].map Char.toUpper = ['U', 'T', 'C'] then some (0, rest) else none
  | _ => none

/-- A date and a time of day as they are written, with the offset. -/
structure Reading where
  date : Date
  hour : Nat
  minute : Nat
  second : Nat
  nanos : Nat
  offset : Int
  deriving DecidableEq, Repr

/-- Reads the parts of a timestamp, which has to end the text. -/
def Reading.read? (cs : List Char) : Option Reading := do
  let (year, cs) ← readYear cs
  let cs ← passMark '-' cs
  let (month, cs) ← readPart cs
  let cs ← passMark '-' cs
  let (day, cs) ← readPart cs
  let cs ←
    match cs with
    | 'T' :: rest | 't' :: rest | ' ' :: rest => some rest
    | _ => none
  let (hour, cs) ← readPart cs
  let cs ← passMark ':' cs
  let (minute, cs) ← readPart cs
  let cs ← passMark ':' cs
  let (second, cs) ← readPart cs
  let (nanos, cs) ← readFraction cs
  let (offset, cs) ← readOffset (Text.trimStart cs)
  if (Text.trimStart cs).isEmpty then
    some ⟨⟨year, month, day⟩, hour, minute, second, nanos, offset⟩
  else none

/-- The instant that a reading stands for, if its parts are in range. -/
def Reading.instant? (r : Reading) : Option Instant :=
  let leap := r.second = 60
  let second := if leap then 59 else r.second
  let nanos := if leap then r.nanos + nanosPerSecond else r.nanos
  let t : Instant :=
    ⟨r.date.toDays * secondsPerDay + (r.hour * 3600 + r.minute * 60 + second : Nat) - r.offset,
      nanos⟩
  if r.date.isValid && r.hour < 24 && r.minute < 60 && r.second ≤ 60
      && r.offset.natAbs < 86400 && t.inCalendar then some t
  else none

/-- The instant that a text writes. -/
def Instant.ofString? (text : String) : Option Instant :=
  Reading.read? text.toList >>= Reading.instant?

end Hostlink.Time
