import Hostlink.Decimal.Shortest

/-!
# Layouts of floating-point numbers

A layout says how the shortest decimal of a number is written: between which sizes the digits are
written out in place, whether a whole number keeps a point, and whether a positive exponent carries
a sign.  Outside that range the number is written with one digit before the point and an exponent.
-/

namespace Hostlink.Decimal

/-- How numbers are written. -/
structure Layout where
  /-- The bounds of the number of digits before the point (negative: zeros behind it) within which
  a number is written out; `none` when every number is. -/
  positional : Option (Int × Int)
  /-- Whether a whole number that is written out ends in `.0`. -/
  keepsPoint : Bool
  /-- Whether a positive exponent is written with a plus sign. -/
  signsExponent : Bool
  deriving Repr

/-- Numbers in JSON texts. -/
def Layout.json : Layout := ⟨some (-4, 16), true, true⟩

/-- Numbers in diagnostics. -/
def Layout.diagnostic : Layout := ⟨some (-3, 16), true, false⟩

/-- Numbers in running text: no exponent at all. -/
def Layout.plain : Layout := ⟨none, false, false⟩

/-- The digits written out with `point` of them before the point. -/
def writePositional (keepsPoint : Bool) (digits : List Char) (point : Int) : List Char :=
  let count : Int := digits.length
  if point ≤ 0 then '0' :: '.' :: (List.replicate (-point).toNat '0' ++ digits)
  else if count ≤ point then
    digits ++ List.replicate (point - count).toNat '0' ++ if keepsPoint then ['.', '0'] else []
  else digits.take point.toNat ++ '.' :: digits.drop point.toNat

/-- One digit before the point, the others behind it, and an exponent. -/
def writeScientific (signsExponent : Bool) (digits : List Char) (point : Int) : List Char :=
  let mantissa :=
    match digits with
    | first :: rest@(_ :: _) => first :: '.' :: rest
    | _ => digits
  let plus := if signsExponent && 0 < point - 1 then ['+'] else []
  mantissa ++ 'e' :: (plus ++ (toString (point - 1)).toList)

/-- The text of the finite magnitude with these bits. -/
def Layout.writeMagnitude (layout : Layout) (bits : UInt64) : List Char :=
  let d := shortest bits
  let digits := Nat.toDigits 10 d.digits
  let point := d.place + digits.length
  if d.digits = 0 then writePositional layout.keepsPoint ['0'] 1
  else
    match layout.positional with
    | some (least, most) =>
      if least ≤ point ∧ point ≤ most then writePositional layout.keepsPoint digits point
      else writeScientific layout.signsExponent digits point
    | none => writePositional layout.keepsPoint digits point

/-- The text of the number with these bits. -/
def Layout.write (layout : Layout) (bits : UInt64) : String :=
  let sign := if isNegative bits then "-" else ""
  if isNaN bits then "NaN"
  else if isFinite bits then sign ++ String.ofList (layout.writeMagnitude bits)
  else sign ++ "inf"

end Hostlink.Decimal
