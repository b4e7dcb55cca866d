import Hostlink.Decimal.Reading
import Hostlink.Log.Event
import Hostlink.Pattern.Reader

/-!
# Conditions on fields

A directive can ask for a field, and for a value of it.  What is asked for is a truth value, an
integer or another number if it reads as one; anything else is a pattern for the text of the value.
-/

namespace Hostlink.Log

/-- The value that is asked for. -/
inductive Expectation where
  | bool (value : Bool)
  | unsigned (value : Nat)
  | signed (value : Int)
  /-- A double-precision number, by its bits. -/
  | float (bits : UInt64)
  | notANumber
  | pattern (pattern : Pattern)
  deriving DecidableEq, Repr

/-- A field that is asked for. -/
structure FieldMatch where
  name : String
  value : Option Expectation
  deriving DecidableEq, Repr

namespace Expectation

/-- The 64-bit integer without a sign that characters write; a plus sign may stand before it. -/
def unsigned? (cs : List Char) : Option Nat :=
  let digits := match cs with
    | '+' :: rest => rest
    | cs => cs
  if digits.isEmpty || !digits.all Char.isDigit then none
  else
    let value := Nat.ofDigitChars 10 digits 0
    if value < Nat.pow 2 64 then some value else none

/-- The 64-bit integer that characters write. -/
def signed? (cs : List Char) : Option Int :=
  let (negative, digits) := Decimal.splitSign cs
  if digits.isEmpty || !digits.all Char.isDigit then none
  else
    let value := Nat.ofDigitChars 10 digits 0
    if negative then if value ≤ Nat.pow 2 63 then some (-value) else none
    else if value < Nat.pow 2 63 then some value else none

/-- Reads what is asked for. -/
def ofChars (cs : List Char) : Except Pattern.Fault Expectation :=
  if String.ofList cs = "true" then .ok (.bool true)
  else if String.ofList cs = "false" then .ok (.bool false)
  else
    match unsigned? cs, signed? cs, Decimal.ofChars? cs with
    | some value, _, _ => .ok (.unsigned value)
    | none, some value, _ => .ok (.signed value)
    | none, none, some value => .ok (if value.isNaN then .notANumber else .float value.toBits)
    | none, none, none => (Pattern.ofChars cs).map .pattern

/-- Numbers that are less than this apart count as equal. -/
def tolerance : Float := Float.ofBits 0x3cb0000000000000

/-- Whether a recorded value is as expected. -/
def admits : Expectation → FieldValue → Bool
  | .bool expected, .bool value => expected = value
  | .unsigned expected, .int value => (expected : Int) = value
  | .signed expected, .int value => expected = value
  | .float expected, .float value => (Float.ofBits value - Float.ofBits expected).abs < tolerance
  | .notANumber, .float value => Decimal.isNaN value
  | .pattern p, .text value | .pattern p, .shown value | .pattern p, .error value =>
    p.reachesEnd value
  | .pattern p, .wide value => p.reachesEnd (toString value)
  | .pattern p, .bytes value => p.reachesEnd (bytesText value)
  | _, _ => false

end Expectation

namespace FieldMatch

/-- Reads a name and, behind an equals sign, a value; what stands behind a second one is passed
over. -/
def ofChars (cs : List Char) : Except Pattern.Fault FieldMatch :=
  let name := String.ofList (cs.takeWhile (· ≠ '='))
  match cs.dropWhile (· ≠ '=') with
  | [] => .ok ⟨name, none⟩
  | _ :: rest =>
    (Expectation.ofChars (rest.takeWhile (· ≠ '='))).map fun value => ⟨name, some value⟩

/-- Whether the field is there. -/
def isNamedIn (m : FieldMatch) (fields : List Field) : Bool := fields.any (·.name = m.name)

/-- Whether the field is there with the value that is asked for; of several fields of the name the
first one counts. -/
def admits (m : FieldMatch) (fields : List Field) : Bool :=
  match fields.find? (·.name = m.name), m.value with
  | none, _ => false
  | some _, none => true
  | some field, some expected => expected.admits field.value

end FieldMatch
end Hostlink.Log
