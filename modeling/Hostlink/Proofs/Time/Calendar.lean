import Hostlink.Time.Instant

/-!
# Days and their dates

The number of a day and its date determine each other (`Date.toDays_ofDays`), and the days of the
calendar have dates of the calendar (`Instant.date_isValid`).  Between number and date stands the
place of a day in years that begin in March: the era of four centuries, the century, the cycle of
four years, the year and the day of the year.  There the leap day is the last day of a cycle, and a
century ends with a leap day only if the era ends with it.
-/

namespace Hostlink.Time

/-- Where a day lies, in years that begin in March. -/
structure DayPlace where
  era : Int
  century : Int
  cycle : Int
  year : Int
  dayOfYear : Int
  century_range : 0 ≤ century ∧ century ≤ 3
  cycle_range : 0 ≤ cycle ∧ cycle ≤ 24
  year_range : 0 ≤ year ∧ year ≤ 3
  dayOfYear_range : 0 ≤ dayOfYear ∧ dayOfYear ≤ 365
  leap_day : dayOfYear = 365 → year = 3 ∧ (cycle = 24 → century = 3)

namespace DayPlace

variable (p : DayPlace)

/-! ## Counting days and years -/

/-- Days since the cycle began. -/
def dayOfCycle : Int := 365 * p.year + p.dayOfYear

/-- Days since the century began. -/
def dayOfCentury : Int := 1461 * p.cycle + p.dayOfCycle

/-- Days since the era began. -/
def dayOfEra : Int := 36524 * p.century + p.dayOfCentury

/-- Years since the era began. -/
def yearOfEra : Int := 100 * p.century + 4 * p.cycle + p.year

/-- The number of the day. -/
def days : Int := p.era * eraDays + p.dayOfEra - epochShift

theorem dayOfCycle_range : 0 ≤ p.dayOfCycle ∧ p.dayOfCycle ≤ 1460 := by
  have year := p.year_range
  have day := p.dayOfYear_range
  have leap := p.leap_day
  unfold dayOfCycle
  omega

theorem dayOfCentury_range :
    0 ≤ p.dayOfCentury ∧ p.dayOfCentury ≤ 36524 ∧ (p.dayOfCentury = 36524 → p.century = 3) := by
  have cycle := p.cycle_range
  have year := p.year_range
  have day := p.dayOfYear_range
  have leap := p.leap_day
  unfold dayOfCentury dayOfCycle
  omega

theorem dayOfEra_range : 0 ≤ p.dayOfEra ∧ p.dayOfEra < eraDays := by
  have century := p.century_range
  have day := p.dayOfCentury_range
  unfold dayOfEra eraDays
  omega

theorem yearOfEra_range : 0 ≤ p.yearOfEra ∧ p.yearOfEra < 400 := by
  have century := p.century_range
  have cycle := p.cycle_range
  have year := p.year_range
  unfold yearOfEra
  omega

/-- The day of the era from the year and the day of the year: a leap day for each cycle that is
over, but none for the centuries. -/
theorem dayOfEra_eq :
    p.dayOfEra = p.yearOfEra * 365 + p.yearOfEra / 4 - p.yearOfEra / 100 + p.dayOfYear := by
  have century := p.century_range
  have cycle := p.cycle_range
  have year := p.year_range
  unfold dayOfEra dayOfCentury dayOfCycle yearOfEra
  omega

/-- The year of the era from the day: without the leap days all years are equally long. -/
theorem yearOfEra_of_dayOfEra :
    (p.dayOfEra - p.dayOfEra / 1460 + p.dayOfEra / 36524 - p.dayOfEra / 146096) / 365
      = p.yearOfEra := by
  have century := p.century_range
  have cycle := p.cycle_range
  have year := p.year_range
  have ofYear := p.dayOfYear_range
  have leap := p.leap_day
  have ofCycle := p.dayOfCycle_range
  have ofCentury := p.dayOfCentury_range
  have centuries : p.dayOfEra / 36524 - p.dayOfEra / 146096 = p.century := by
    unfold dayOfEra
    omega
  -- 1460 is one day short of a cycle, so the quotient may run ahead by one at the end of a cycle.
  have leapDays : p.dayOfEra / 1460
      = 25 * p.century + p.cycle + (24 * p.century + p.cycle + p.dayOfCycle) / 1460 := by
    unfold dayOfEra dayOfCentury
    omega
  have years :
      (p.dayOfCycle - (24 * p.century + p.cycle + p.dayOfCycle) / 1460) / 365 = p.year := by
    unfold dayOfCycle at ofCycle ⊢
    obtain first | second | third | last : p.year = 0 ∨ p.year = 1 ∨ p.year = 2 ∨ p.year = 3 := by
      omega
    all_goals omega
  have withoutLeapDays :
      p.dayOfEra - p.dayOfEra / 1460 + p.dayOfEra / 36524 - p.dayOfEra / 146096
        = 365 * (100 * p.century + 4 * p.cycle)
          + (p.dayOfCycle - (24 * p.century + p.cycle + p.dayOfCycle) / 1460) := by
    rw [leapDays]
    unfold dayOfEra dayOfCentury at centuries ⊢
    omega
  rw [withoutLeapDays]
  unfold yearOfEra
  omega

/-- Counting in units of one size, the last of which may be longer by one. -/
theorem exists_unit {n : Int} (size last : Int) (pos : 0 < size) (some_unit : 0 ≤ last)
    (low : 0 ≤ n) (high : n ≤ size * (last + 1)) :
    ∃ unit rest, n = size * unit + rest ∧ (0 ≤ unit ∧ unit ≤ last) ∧ (0 ≤ rest ∧ rest ≤ size) ∧
      (rest = size → unit = last) := by
  by_cases full : n = size * (last + 1)
  · exact ⟨last, size, by rw [full, Int.mul_add, Int.mul_one], by omega, by omega, fun _ => rfl⟩
  · have unit : n / size < last + 1 := Int.ediv_lt_of_lt_mul pos (by rw [Int.mul_comm]; omega)
    have rest := Int.emod_lt_of_pos n pos
    exact ⟨n / size, n % size, (Int.mul_ediv_add_emod n size).symm,
      ⟨Int.ediv_nonneg low (Int.le_of_lt pos), by omega⟩,
      ⟨Int.emod_nonneg n (Int.ne_of_gt pos), Int.le_of_lt rest⟩, by omega⟩

/-- Each day has a place. -/
theorem exists_days (days : Int) : ∃ p : DayPlace, p.days = days := by
  have split := Int.mul_ediv_add_emod (days + epochShift) 146097
  have low := Int.emod_nonneg (days + epochShift) (b := 146097) (by decide)
  have high := Int.emod_lt_of_pos (days + epochShift) (b := 146097) (by decide)
  obtain ⟨century, ofCentury, hcentury, inEra, inCentury, longCentury⟩ :=
    exists_unit 36524 3 (by decide) (by decide) low (by omega)
  obtain ⟨year, dayOfYear, hyear, inCycle, inYear, longYear⟩ :=
    exists_unit (n := ofCentury % 1461) 365 3 (by decide) (by decide) (by omega) (by omega)
  refine ⟨⟨(days + epochShift) / 146097, century, ofCentury / 1461, year, dayOfYear, inEra,
    by omega, inCycle, inYear, by omega⟩, ?_⟩
  simp only [DayPlace.days, dayOfEra, dayOfCentury, dayOfCycle, eraDays]
  omega

/-! ## Dates -/

/-- Months since March. -/
def monthOfYear : Int := (5 * p.dayOfYear + 2) / 153

/-- The day of the month. -/
def dayOfMonth : Int := p.dayOfYear - (153 * p.monthOfYear + 2) / 5 + 1

/-- The month of the calendar. -/
def month : Int := if p.monthOfYear < 10 then p.monthOfYear + 3 else p.monthOfYear - 9

/-- The year of the calendar. -/
def calendarYear : Int := p.yearOfEra + p.era * 400 + if p.month ≤ 2 then 1 else 0

/-- The date. -/
def date : Date := ⟨p.calendarYear, p.month.toNat, p.dayOfMonth.toNat⟩

theorem monthOfYear_range : 0 ≤ p.monthOfYear ∧ p.monthOfYear ≤ 11 := by
  have day := p.dayOfYear_range
  unfold monthOfYear
  omega

theorem month_range : 1 ≤ p.month ∧ p.month ≤ 12 := by
  have monthOfYear := p.monthOfYear_range
  unfold month
  split <;> omega

theorem month_le_two_iff : p.month ≤ 2 ↔ 306 ≤ p.dayOfYear := by
  have day := p.dayOfYear_range
  unfold month monthOfYear
  split <;> omega

theorem dayOfMonth_pos : 1 ≤ p.dayOfMonth := by
  have day := p.dayOfYear_range
  unfold dayOfMonth monthOfYear
  omega

theorem ofDays_days : Date.ofDays p.days = p.date := by
  have range := p.dayOfEra_range
  have shifted : p.days + epochShift = p.era * eraDays + p.dayOfEra := by
    unfold days
    omega
  have era : (p.days + epochShift) / eraDays = p.era := by
    rw [shifted]
    unfold eraDays at *
    omega
  have dayOfEra : (p.days + epochShift) % eraDays = p.dayOfEra := by
    rw [shifted]
    unfold eraDays at *
    omega
  have dayOfYear : p.dayOfEra - (365 * p.yearOfEra + p.yearOfEra / 4 - p.yearOfEra / 100)
      = p.dayOfYear := by
    have count := p.dayOfEra_eq
    omega
  simp only [Date.ofDays, era, dayOfEra, p.yearOfEra_of_dayOfEra, dayOfYear]
  rfl

theorem toDays_date : p.date.toDays = p.days := by
  have month := p.month_range
  have monthOfYear := p.monthOfYear_range
  have yearOfEra := p.yearOfEra_range
  have dayOfMonth := p.dayOfMonth_pos
  have monthNumber : (p.month.toNat : Int) = p.month := by omega
  have dayNumber : (p.dayOfMonth.toNat : Int) = p.dayOfMonth := by omega
  have early : p.month.toNat ≤ 2 ↔ p.month ≤ 2 := by omega
  have marchYear : (if p.month ≤ 2 then p.calendarYear - 1 else p.calendarYear)
      = p.era * 400 + p.yearOfEra := by
    unfold calendarYear
    split <;> omega
  have sinceMarch : (if 2 < p.month then p.month - 3 else p.month + 9) = p.monthOfYear := by
    unfold DayPlace.month
    split <;> split <;> omega
  have era : (p.era * 400 + p.yearOfEra) / 400 = p.era := by omega
  have year : (p.era * 400 + p.yearOfEra) % 400 = p.yearOfEra := by omega
  have dayOfYear : (153 * p.monthOfYear + 2) / 5 + p.dayOfMonth - 1 = p.dayOfYear := by
    unfold DayPlace.dayOfMonth
    omega
  simp only [Date.toDays, date, monthNumber, dayNumber, early, marchYear, sinceMarch, era, year,
    dayOfYear, ← p.dayOfEra_eq]
  rfl

/-! ## The calendar -/

/-- Only leap years have the leap day. -/
theorem isLeapYear_of_leap_day (leap : p.dayOfYear = 365) : isLeapYear p.calendarYear = true := by
  have century := p.century_range
  have cycle := p.cycle_range
  obtain ⟨lastYear, lastCycle⟩ := p.leap_day leap
  have inFebruary : p.month ≤ 2 := p.month_le_two_iff.2 (by omega)
  rw [calendarYear, if_pos inFebruary, yearOfEra, isLeapYear]
  simp only [Bool.and_eq_true, Bool.or_eq_true, decide_eq_true_eq, ne_eq]
  omega

/-- No month has more days than the calendar gives it. -/
theorem dayOfMonth_le : p.dayOfMonth.toNat ≤ daysInMonth p.calendarYear p.month.toNat := by
  have day := p.dayOfYear_range
  have leap := p.isLeapYear_of_leap_day
  have month : p.month = if p.monthOfYear < 10 then p.monthOfYear + 3 else p.monthOfYear - 9 := rfl
  have monthOfYear : p.monthOfYear = (5 * p.dayOfYear + 2) / 153 := rfl
  unfold dayOfMonth daysInMonth
  split
  next february =>
    split
    next => omega
    next ordinary =>
      have short : p.dayOfYear ≠ 365 := fun last => ordinary (leap last)
      omega
  all_goals omega

/-- The days of the calendar lie in its years. -/
theorem calendarYear_range (first : (Date.mk firstYear 1 1).toDays ≤ p.days)
    (last : p.days ≤ (Date.mk lastYear 12 31).toDays) :
    firstYear ≤ p.calendarYear ∧ p.calendarYear ≤ lastYear := by
  have firstDay : (Date.mk firstYear 1 1).toDays = -96465292 := by decide
  have lastDay : (Date.mk lastYear 12 31).toDays = 95026236 := by decide
  have number : p.days = p.era * 146097 + p.dayOfEra - 719468 := rfl
  have count := p.dayOfEra_eq
  have yearOfEra := p.yearOfEra_range
  have dayOfYear := p.dayOfYear_range
  have january := p.month_le_two_iff
  have eras : -656 ≤ p.era ∧ p.era ≤ 655 := by omega
  have inFirstEra : p.era = -656 → 256 ≤ p.yearOfEra := by omega
  have inLastEra : p.era = 655 → p.yearOfEra ≤ 142 := by omega
  unfold calendarYear firstYear lastYear
  split <;> omega

theorem date_isValid (first : (Date.mk firstYear 1 1).toDays ≤ p.days)
    (last : p.days ≤ (Date.mk lastYear 12 31).toDays) : p.date.isValid = true := by
  have year := p.calendarYear_range first last
  have month := p.month_range
  have day := p.dayOfMonth_pos
  have fits := p.dayOfMonth_le
  simp only [Date.isValid, Bool.and_eq_true, decide_eq_true_eq]
  simp only [date]
  omega

end DayPlace

/-- The date of a day has its number. -/
theorem Date.toDays_ofDays (days : Int) : (Date.ofDays days).toDays = days := by
  obtain ⟨p, rfl⟩ := DayPlace.exists_days days
  rw [p.ofDays_days, p.toDays_date]

/-- The date of an instant of the calendar is in the calendar. -/
theorem Instant.date_isValid {t : Instant} (inside : t.inCalendar = true) :
    t.date.isValid = true := by
  simp only [inCalendar, Bool.and_eq_true, decide_eq_true_eq] at inside
  unfold firstSecond lastSecond secondsPerDay at inside
  obtain ⟨p, place⟩ := DayPlace.exists_days (t.secs / 86400)
  have same : t.date = p.date := by
    rw [← p.ofDays_days, place]
    rfl
  rw [same]
  exact p.date_isValid (by omega) (by omega)

end Hostlink.Time
