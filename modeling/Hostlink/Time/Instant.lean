import Hostlink.Time.Duration

/-!
# Instants and the calendar

An instant counts seconds from the start of 1970 in universal time, with nanoseconds.  During a
leap second the nanoseconds run on past one second.  The calendar is the proleptic Gregorian one;
its years run from -262143 to 262142.
-/

namespace Hostlink.Time

/-- A point in time. -/
structure Instant where
  secs : Int
  /-- Below one second, or below two during a leap second. -/
  nanos : Nat
  deriving DecidableEq, Repr

/-- A calendar day. -/
structure Date where
  year : Int
  month : Nat
  day : Nat
  deriving DecidableEq, Repr

/-- Seconds in a day. -/
def secondsPerDay : Int := 86400

/-! ## Days and dates

The count of days starts with 1970-01-01.  Years are taken to begin in March, so that the leap day
is the last one; 400 of them have 146097 days. -/

/-- Days from the start of March of year zero to the first day of 1970. -/
def epochShift : Int := 719468

/-- Days in four hundred years. -/
def eraDays : Int := 146097

/-- The day with a number. -/
def Date.ofDays (days : Int) : Date :=
  let z := days + epochShift
  let era := z / eraDays
  let dayOfEra := z % eraDays
  let yearOfEra := (dayOfEra - dayOfEra / 1460 + dayOfEra / 36524 - dayOfEra / 146096) / 365
  let dayOfYear := dayOfEra - (365 * yearOfEra + yearOfEra / 4 - yearOfEra / 100)
  let shifted := (5 * dayOfYear + 2) / 153
  let day := dayOfYear - (153 * shifted + 2) / 5 + 1
  let month := if shifted < 10 then shifted + 3 else shifted - 9
  let year := yearOfEra + era * 400 + if month ≤ 2 then 1 else 0
  ⟨year, month.toNat, day.toNat⟩

/-- The number of a day. -/
def Date.toDays (date : Date) : Int :=
  let month : Int := date.month
  let year := if date.month ≤ 2 then date.year - 1 else date.year
  let era := year / 400
  let yearOfEra := year % 400
  let shifted := if 2 < month then month - 3 else month + 9
  let dayOfYear := (153 * shifted + 2) / 5 + date.day - 1
  let dayOfEra := yearOfEra * 365 + yearOfEra / 4 - yearOfEra / 100 + dayOfYear
  era * eraDays + dayOfEra - epochShift

/-- Whether a year has a leap day. -/
def isLeapYear (year : Int) : Bool := year % 4 = 0 && (year % 100 ≠ 0 || year % 400 = 0)

/-- The number of days of a month. -/
def daysInMonth (year : Int) (month : Nat) : Nat :=
  match month with
  | 2 => if isLeapYear year then 29 else 28
  | 4 | 6 | 9 | 11 => 30
  | _ => 31

/-- The first year of the calendar. -/
def firstYear : Int := -262143

/-- The last year of the calendar. -/
def lastYear : Int := 262142

/-- Whether a day exists in the calendar. -/
def Date.isValid (date : Date) : Bool :=
  firstYear ≤ date.year && date.year ≤ lastYear
    && 1 ≤ date.month && date.month ≤ 12
    && 1 ≤ date.day && date.day ≤ daysInMonth date.year date.month

/-! ## The range of instants -/

/-- The first second of the calendar. -/
def firstSecond : Int := (Date.mk firstYear 1 1).toDays * secondsPerDay

/-- The last second of the calendar. -/
def lastSecond : Int := (Date.mk lastYear 12 31).toDays * secondsPerDay + (secondsPerDay - 1)

/-- Whether an instant lies within the calendar. -/
def Instant.inCalendar (t : Instant) : Bool := firstSecond ≤ t.secs && t.secs ≤ lastSecond

/-- The day of an instant. -/
def Instant.date (t : Instant) : Date := .ofDays (t.secs / secondsPerDay)

/-- The second of the day of an instant. -/
def Instant.secondOfDay (t : Instant) : Nat := (t.secs % secondsPerDay).toNat

end Hostlink.Time
