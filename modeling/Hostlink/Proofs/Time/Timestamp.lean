import Hostlink.Time.Rfc3339
import Hostlink.Proofs.Redaction.Url
import Hostlink.Proofs.Time.Calendar

/-!
# Timestamps come back

What is written for an instant of the calendar is read as this instant, unless it lies in a leap
second (`Instant.ofString?_render`).  Each part of a timestamp has a writer and a reader, and the
reader takes what the writer has written and leaves what stands behind it.
-/

namespace Hostlink.Time

open Redaction (takeWhile_append_of_stop dropWhile_append_of_stop)

/-! ## Digits -/

theorem isDigit_iff {c : Char} : isDigit c = true ↔ 48 ≤ c.toNat ∧ c.toNat ≤ 57 := by
  simp only [isDigit, Bool.and_eq_true, decide_eq_true_eq, Char.le_def, UInt32.le_iff_toNat_le]
  rfl

theorem isBlank_of_isDigit {c : Char} (digit : isDigit c = true) : Text.isBlank c = false := by
  rw [isDigit_iff] at digit
  have apart : ∀ range ∈ Text.blankRanges, range.2 < 48 ∨ 57 < range.1 := by decide
  rw [Text.isBlank, List.any_eq_false]
  intro range blank
  have outside := apart range blank
  simp only [Bool.and_eq_true, decide_eq_true_eq]
  omega

/-- A reader that passes over blanks stays where it is if there are none. -/
theorem trimStart_of_head {cs : List Char} (inked : ∀ c ∈ cs.head?, Text.isBlank c = false) :
    Text.trimStart cs = cs :=
  dropWhile_append_of_stop (List.forall_mem_nil _) inked

section Padded

variable {width n : Nat}

theorem isDigit_of_mem_padded : ∀ c ∈ padded width n, isDigit c = true := by
  intro c written
  obtain zero | digit := List.mem_append.1 written
  · rw [(List.mem_replicate.1 zero).2]
    rfl
  · simpa [isDigit, Char.isDigit, Char.le_def]
      using Nat.isDigit_of_mem_toDigits (by decide) (by decide) digit

theorem padded_ne_nil : padded width n ≠ [] := by
  simp [padded, Nat.toDigits_ne_nil]

theorem exists_digit (width n : Nat) : ∃ c cs, padded width n = c :: cs ∧ isDigit c = true := by
  cases digits : padded width n with
  | nil => exact absurd digits padded_ne_nil
  | cons c cs => exact ⟨c, cs, rfl, isDigit_of_mem_padded c (by rw [digits]; exact .head cs)⟩

theorem length_padded (pos : 0 < width) (fits : n < Nat.pow 10 width) :
    (padded width n).length = width := by
  have short := (Nat.length_toDigits_le_iff (by decide) pos).2 fits
  rw [padded, List.length_append, List.length_replicate, Nat.sub_add_cancel short]

/-- Leading zeros do not count. -/
theorem ofDigitChars_padded : Nat.ofDigitChars 10 (padded width n) 0 = n := by
  rw [padded, Nat.ofDigitChars_append, Nat.ofDigitChars_replicate_zero, Nat.mul_zero,
    Nat.ofDigitChars_ten_toDigits]

theorem trimStart_padded (rest : List Char) :
    Text.trimStart (padded width n ++ rest) = padded width n ++ rest := by
  obtain ⟨c, cs, begun, digit⟩ := exists_digit width n
  exact trimStart_of_head (by simpa [begun] using isBlank_of_isDigit digit)

/-- A number that fills its places is read, whatever stands behind it. -/
theorem readDigits_padded (pos : 0 < width) (fits : n < Nat.pow 10 width) (rest : List Char) :
    readDigits width (padded width n ++ rest) = some (n, rest) := by
  have places : (padded width n ++ rest).take width = padded width n :=
    List.take_left' (length_padded pos fits)
  have digits : (padded width n).takeWhile isDigit = padded width n :=
    List.takeWhile_eq_self_iff.2 isDigit_of_mem_padded
  rw [readDigits, places, digits, List.drop_left, ofDigitChars_padded]
  simp [padded_ne_nil]

/-- A number of any length is read up to what is no digit. -/
theorem readLongDigits_padded {rest : List Char} (stop : ∀ c ∈ rest.head?, isDigit c = false) :
    readLongDigits (padded width n ++ rest) = some (n, rest) := by
  rw [readLongDigits, takeWhile_append_of_stop isDigit_of_mem_padded stop,
    dropWhile_append_of_stop isDigit_of_mem_padded stop, ofDigitChars_padded]
  simp [padded_ne_nil]

end Padded

/-! ## Dates and times of day -/

theorem passMark_self (mark : Char) (inked : Text.isBlank mark = false) (rest : List Char) :
    passMark mark (mark :: rest) = some rest := by
  rw [passMark, trimStart_of_head (by simpa using inked)]
  simp

theorem readPart_padded {n : Nat} (fits : n < 100) (rest : List Char) :
    readPart (padded 2 n ++ rest) = some (n, rest) := by
  rw [readPart, trimStart_padded, readDigits_padded (by decide) fits]

/-- A year without a sign. -/
theorem readYear_of_digit {c : Char} (digit : isDigit c = true) (cs : List Char) :
    readYear (c :: cs) = (readDigits 4 (c :: cs)).map fun (n, rest) => ((n : Int), rest) := by
  rw [readYear, trimStart_of_head (by simpa using isBlank_of_isDigit digit)]
  split
  next minus => exact absurd ((List.cons.inj minus).1 ▸ digit) (by decide)
  next plus => exact absurd ((List.cons.inj plus).1 ▸ digit) (by decide)
  next => rfl

/-- A year of four digits is read by its width, and one with a sign up to what is no digit. -/
theorem readYear_writeYear (year : Int) {rest : List Char}
    (stop : ∀ c ∈ rest.head?, isDigit c = false) :
    readYear (writeYear year ++ rest) = some (year, rest) := by
  rw [writeYear]
  split
  next fourDigits =>
    obtain ⟨c, cs, begun, digit⟩ := exists_digit 4 year.toNat
    have read : readDigits 4 (padded 4 year.toNat ++ rest) = some (year.toNat, rest) :=
      have fits : year.toNat < 10000 := by omega
      readDigits_padded (by decide) fits rest
    rw [begun] at read ⊢
    rw [List.cons_append, readYear_of_digit digit, ← List.cons_append, read]
    simp [Int.toNat_of_nonneg fourDigits.1]
  next =>
    have read : readLongDigits (padded 4 year.natAbs ++ rest) = some (year.natAbs, rest) :=
      readLongDigits_padded stop
    split
    next before =>
      rw [readYear, List.cons_append, trimStart_of_head (by simp; decide)]
      change (readLongDigits (padded 4 year.natAbs ++ rest)).map _ = _
      rw [read]
      simp [Int.ofNat_natAbs_of_nonpos (Int.le_of_lt before)]
    next since =>
      rw [readYear, List.cons_append, trimStart_of_head (by simp; decide)]
      change (readLongDigits (padded 4 year.natAbs ++ rest)).map _ = _
      rw [read]
      simp [Int.natAbs_of_nonneg (Int.not_lt.1 since)]

/-! ## Fractions of a second -/

/-- The digits behind the point count by their places. -/
theorem readFraction_padded {width n nanos : Nat} (pos : 0 < width) (nine : width ≤ 9)
    (fits : n < Nat.pow 10 width) (scaled : n * Nat.pow 10 (9 - width) = nanos) {rest : List Char}
    (stop : ∀ c ∈ rest.head?, isDigit c = false) :
    readFraction ('.' :: (padded width n ++ rest)) = some (nanos, rest) := by
  have length := length_padded pos fits
  have used : (padded width n).take 9 = padded width n :=
    List.take_of_length_le (by rw [length]; exact nine)
  simp only [readFraction, takeWhile_append_of_stop isDigit_of_mem_padded stop,
    dropWhile_append_of_stop isDigit_of_mem_padded stop, used, ofDigitChars_padded, length, scaled]
  simp [padded_ne_nil]

/-- No nanosecond is lost, whether the fraction has three, six or nine digits or is left out. -/
theorem readFraction_writeFraction {n : Nat} (below : n < nanosPerSecond) (rest : List Char) :
    readFraction (writeFraction n ++ 'Z' :: rest) = some (n, 'Z' :: rest) := by
  have stop : ∀ c ∈ ('Z' :: rest).head?, isDigit c = false := by simp; decide
  unfold nanosPerSecond at below
  rw [writeFraction]
  split
  next whole => rw [whole]; rfl
  split
  next millis =>
    have fits : n / 1000000 < 1000 := by omega
    have scaled : n / 1000000 * 1000000 = n := by omega
    exact readFraction_padded (by decide) (by decide) fits scaled stop
  split
  next micros =>
    have fits : n / 1000 < 1000000 := by omega
    have scaled : n / 1000 * 1000 = n := by omega
    exact readFraction_padded (by decide) (by decide) fits scaled stop
  next => exact readFraction_padded (by decide) (by decide) below (Nat.mul_one n) stop

/-! ## Whole timestamps -/

theorem daysInMonth_le (year : Int) (month : Nat) : daysInMonth year month ≤ 31 := by
  unfold daysInMonth
  split
  · split <;> decide
  all_goals decide

theorem Instant.secondOfDay_lt (t : Instant) : t.secondOfDay < 86400 := by
  unfold secondOfDay secondsPerDay
  omega

/-- The parts that are written for an instant are read one after the other. -/
theorem Reading.read?_write {t : Instant} (valid : t.date.isValid = true)
    (below : t.nanos < nanosPerSecond) :
    read? t.write = some ⟨t.date, t.secondOfDay / 3600, t.secondOfDay / 60 % 60,
      t.secondOfDay % 60, t.nanos, 0⟩ := by
  have inDay := t.secondOfDay_lt
  have ofMonth := daysInMonth_le t.date.year t.date.month
  simp only [Date.isValid, Bool.and_eq_true, decide_eq_true_eq] at valid
  have month : t.date.month < 100 := by omega
  have day : t.date.day < 100 := by omega
  have hour : t.secondOfDay / 3600 < 100 := by omega
  have minute : t.secondOfDay / 60 % 60 < 100 := by omega
  have second : t.secondOfDay % 60 < 100 := by omega
  have noLeap : t.nanos / nanosPerSecond = 0 := Nat.div_eq_of_lt below
  have nanos : t.nanos % nanosPerSecond = t.nanos := Nat.mod_eq_of_lt below
  have hyphen := passMark_self '-' (by decide)
  have colon := passMark_self ':' (by decide)
  simp only [read?, Instant.write, Date.write, writeClock, noLeap, nanos, Nat.add_zero,
    List.append_assoc, List.cons_append]
  refine Option.bind_eq_some_iff.2 ⟨_, readYear_writeYear _ (by simp; decide), ?_⟩
  refine Option.bind_eq_some_iff.2 ⟨_, hyphen _, ?_⟩
  refine Option.bind_eq_some_iff.2 ⟨_, readPart_padded month _, ?_⟩
  refine Option.bind_eq_some_iff.2 ⟨_, hyphen _, ?_⟩
  refine Option.bind_eq_some_iff.2 ⟨_, readPart_padded day _, ?_⟩
  refine Option.bind_eq_some_iff.2 ⟨_, rfl, ?_⟩
  refine Option.bind_eq_some_iff.2 ⟨_, readPart_padded hour _, ?_⟩
  refine Option.bind_eq_some_iff.2 ⟨_, colon _, ?_⟩
  refine Option.bind_eq_some_iff.2 ⟨_, readPart_padded minute _, ?_⟩
  refine Option.bind_eq_some_iff.2 ⟨_, colon _, ?_⟩
  refine Option.bind_eq_some_iff.2 ⟨_, readPart_padded second _, ?_⟩
  exact Option.bind_eq_some_iff.2 ⟨_, readFraction_writeFraction below _, rfl⟩

/-- The parts that are written for an instant stand for it. -/
theorem Reading.instant?_written {t : Instant} (inside : t.inCalendar = true) :
    instant? ⟨t.date, t.secondOfDay / 3600, t.secondOfDay / 60 % 60, t.secondOfDay % 60,
      t.nanos, 0⟩ = some t := by
  have inDay := t.secondOfDay_lt
  have valid := Instant.date_isValid inside
  have noLeap : t.secondOfDay % 60 ≠ 60 := by omega
  have clock : t.secondOfDay / 3600 * 3600 + t.secondOfDay / 60 % 60 * 60 + t.secondOfDay % 60
      = t.secondOfDay := by omega
  have day : t.date.toDays = t.secs / secondsPerDay := Date.toDays_ofDays _
  have secs : t.secs / secondsPerDay * secondsPerDay + (t.secondOfDay : Nat) - 0 = t.secs := by
    unfold Instant.secondOfDay secondsPerDay
    omega
  simp only [instant?, noLeap, if_false, clock, day, secs]
  refine if_pos ?_
  simp only [valid, inside, Bool.true_and, Bool.and_true, Bool.and_eq_true, decide_eq_true_eq]
  omega

/-- An instant of the calendar comes back from its text, unless it lies in a leap second. -/
theorem Instant.ofString?_render {t : Instant} (inside : t.inCalendar = true)
    (below : t.nanos < nanosPerSecond) : ofString? t.render = some t := by
  rw [ofString?, render, String.toList_ofList, Reading.read?_write (date_isValid inside) below]
  exact Reading.instant?_written inside

example : (Instant.mk (-62167219201) 1500000).render = "-0001-12-31T23:59:59.001500Z" := by
  decide +kernel

end Hostlink.Time
