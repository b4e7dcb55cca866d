/-!
# Durations

Spans of time in seconds and nanoseconds, up to the greatest 64-bit count of seconds.
-/

namespace Hostlink.Time

/-- Nanoseconds in a second. -/
def nanosPerSecond : Nat := 1000000000

/-- A span of time. -/
structure Duration where
  secs : Nat
  /-- Below one second. -/
  nanos : Nat
  deriving DecidableEq, Repr

namespace Duration

/-- The longest span. -/
def longest : Duration := ⟨Nat.pow 2 64 - 1, nanosPerSecond - 1⟩

/-- A span of whole seconds. -/
def ofSeconds (secs : Nat) : Duration := ⟨secs, 0⟩

/-- The span of some seconds and any number of nanoseconds: whole seconds among these are carried,
and what would be longer than the longest span is that span. -/
def ofParts (secs nanos : Nat) : Duration :=
  let total := secs + nanos / nanosPerSecond
  if longest.secs < total then longest else ⟨total, nanos % nanosPerSecond⟩

/-- The whole span in nanoseconds. -/
def toNanos (d : Duration) : Nat := d.secs * nanosPerSecond + d.nanos

/-- Whether the span is empty. -/
def isZero (d : Duration) : Bool := d.toNanos = 0

/-- Digits of a fraction over `width` places, without zeros at the end. -/
def fractionDigits (width value : Nat) : List Char :=
  let digits := Nat.toDigits 10 value
  let padded := List.replicate (width - digits.length) '0' ++ digits
  (padded.reverse.dropWhile (· = '0')).reverse

/-- A count with a fraction over `width` places and a unit. -/
def withUnit (whole width fraction : Nat) (unit : String) : String :=
  let digits := fractionDigits width fraction
  let tail := if digits.isEmpty then "" else "." ++ String.ofList digits
  toString whole ++ tail ++ unit

/-- The span in the largest unit of which it has at least one. -/
def shown (d : Duration) : String :=
  if 0 < d.secs then withUnit d.secs 9 d.nanos "s"
  else if 1000000 ≤ d.nanos then withUnit (d.nanos / 1000000) 6 (d.nanos % 1000000) "ms"
  else if 1000 ≤ d.nanos then withUnit (d.nanos / 1000) 3 (d.nanos % 1000) "µs"
  else withUnit d.nanos 0 0 "ns"

end Duration
end Hostlink.Time
