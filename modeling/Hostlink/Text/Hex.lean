/-!
# Hexadecimal text

Lower-case hexadecimal forms of numbers and bytes.
-/

namespace Hostlink

/-- Raw contents of files, bodies and names. -/
abbrev Bytes := List UInt8

namespace Text

/-- The digit of a number below sixteen. -/
def hexDigit (n : Nat) : Char := (Nat.toDigits 16 (n % 16)).headD '0'

/-- The number in base sixteen, without leading zeros. -/
def hexNat (n : Nat) : List Char := Nat.toDigits 16 n

/-- Two digits for a byte. -/
def hexByte (b : UInt8) : List Char := [hexDigit (b.toNat / 16), hexDigit b.toNat]

/-- Two digits for each byte, without separators. -/
def hexBytes (bytes : Bytes) : String := String.ofList (bytes.flatMap hexByte)

/-- Exactly `width` digits, cutting high ones. -/
def hexFixed (width n : Nat) : List Char :=
  (List.range width).reverse.map fun place => hexDigit (n / Nat.pow 16 place)

/-- The value of a hexadecimal digit in either case. -/
def hexValue? (c : Char) : Option Nat :=
  if '0' ≤ c ∧ c ≤ '9' then some (c.toNat - '0'.toNat)
  else if 'a' ≤ c ∧ c ≤ 'f' then some (c.toNat - 'a'.toNat + 10)
  else if 'A' ≤ c ∧ c ≤ 'F' then some (c.toNat - 'A'.toNat + 10)
  else none

/-- The bytes that pairs of digits write; `none` at anything else. -/
def parseHex? : List Char → Option Bytes
  | [] => some []
  | high :: low :: rest => do
    let high ← hexValue? high
    let low ← hexValue? low
    let bytes ← parseHex? rest
    return UInt8.ofNat (high * 16 + low) :: bytes
  | _ => none

end Text
end Hostlink
