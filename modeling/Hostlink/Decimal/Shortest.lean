/-!
# Shortest decimals

A double-precision number is `mantissa · 2 ^ exponent`.  Every real number that is nearer to it
than to its two neighbours reads back as that number.  This module finds the decimal
`digits · 10 ^ place` with the fewest digits among those, and of several the nearest.

The search goes through the digit counts from one to seventeen.  On the decimal grid of each count
only the two grid points around the number can be in reach, so two comparisons of natural numbers
decide.
-/

namespace Hostlink.Decimal

/-- The magnitude of a finite double-precision number. -/
structure Magnitude where
  mantissa : Nat
  exponent : Int
  /-- Whether the neighbour below is half as far away as the one above. -/
  crowdedBelow : Bool
  deriving DecidableEq, Repr

/-- Whether the bits have the sign bit set. -/
def isNegative (bits : UInt64) : Bool := bits.toNat / Nat.pow 2 63 = 1

/-- The exponent field of the bits. -/
def exponentField (bits : UInt64) : Nat := bits.toNat / Nat.pow 2 52 % Nat.pow 2 11

/-- The fraction field of the bits. -/
def fractionField (bits : UInt64) : Nat := bits.toNat % Nat.pow 2 52

/-- Whether the bits stand for a number rather than an infinity or no number. -/
def isFinite (bits : UInt64) : Bool := exponentField bits ≠ 2047

/-- Whether the bits stand for no number. -/
def isNaN (bits : UInt64) : Bool := exponentField bits = 2047 && fractionField bits ≠ 0

/-- The magnitude that finite bits stand for. -/
def magnitude (bits : UInt64) : Magnitude :=
  let e := exponentField bits
  let f := fractionField bits
  if e = 0 then ⟨f, -1074, false⟩
  else ⟨f + Nat.pow 2 52, (e : Int) - 1075, f = 0 && e > 1⟩

/-- A decimal `digits · 10 ^ place`. -/
structure Scaled where
  digits : Nat
  place : Int
  deriving DecidableEq, Repr

/-- The number of decimal digits of a natural number. -/
def digitCount (n : Nat) : Nat := (Nat.toDigits 10 n).length

/-- The place of the leading digit of a positive magnitude: `10 ^ p ≤ value < 10 ^ (p + 1)`. -/
def leadingPlace (x : Magnitude) : Int :=
  let scaled :=
    x.mantissa * Nat.pow 10 400 * Nat.pow 2 x.exponent.toNat / Nat.pow 2 (-x.exponent).toNat
  (digitCount scaled : Int) - 401

/-- The grid point nearest to a magnitude among those on the grid of `10 ^ place` that read back
as it. -/
def onGrid? (x : Magnitude) (place : Int) : Option Scaled :=
  let quarter := x.exponent - 2
  let unit := Nat.pow 10 place.toNat * Nat.pow 2 (-quarter).toNat
  let scale := Nat.pow 2 quarter.toNat * Nat.pow 10 (-place).toNat
  let centre := 4 * x.mantissa * scale
  let low := (4 * x.mantissa - if x.crowdedBelow then 1 else 2) * scale
  let high := (4 * x.mantissa + 2) * scale
  let reaches (d : Nat) : Bool :=
    if x.mantissa % 2 = 0 then low ≤ d * unit && d * unit ≤ high
    else low < d * unit && d * unit < high
  let below := centre / unit
  let above := below + 1
  match reaches below, reaches above with
  | true, true =>
    if centre - below * unit ≤ above * unit - centre then some ⟨below, place⟩
    else some ⟨above, place⟩
  | true, false => some ⟨below, place⟩
  | false, true => some ⟨above, place⟩
  | false, false => none

/-- Moves zeros at the end of the digits into the place. -/
def Scaled.trim (d : Scaled) : Scaled :=
  let zeros := ((Nat.toDigits 10 d.digits).reverse.takeWhile (· = '0')).length
  if d.digits = 0 then ⟨0, 0⟩ else ⟨d.digits / Nat.pow 10 zeros, d.place + zeros⟩

/-- The shortest decimal that reads back as the finite number with these bits, its sign apart. -/
def shortest (bits : UInt64) : Scaled :=
  let x := magnitude bits
  if x.mantissa = 0 then ⟨0, 0⟩
  else
    let lead := leadingPlace x
    let found := (List.range 17).findSome? fun (count : Nat) => onGrid? x (lead - count)
    (found.getD ⟨x.mantissa, 0⟩).trim

end Hostlink.Decimal
