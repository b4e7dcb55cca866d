import Hostlink.Json.Reader
import Hostlink.SortedMap

/-!
# JSON values

Trees with their numbers and strings interpreted.  An integer that fits 64 bits stays exact, all
other numbers are double precision; the members of an object are kept in the order of their keys,
and of equal keys the last one counts.
-/

namespace Hostlink.Json

/-- A JSON number. -/
inductive Number where
  | int (value : Int)
  /-- A double-precision number, by its bits. -/
  | float (bits : UInt64)
  deriving DecidableEq, Repr

/-- A JSON value. -/
inductive Value where
  | null
  | bool (value : Bool)
  | number (value : Number)
  | string (value : String)
  | array (items : List Value)
  | object (members : List (String × Value))
  deriving Repr, Inhabited

/-! ## Numbers -/

/-- The greatest unsigned 64-bit integer. -/
def maxUnsigned : Nat := Nat.pow 2 64 - 1

/-- Adds digits to a significand for as long as it fits 64 bits; the rest are the digits that
found no room. -/
def gatherDigits (significand : Nat) : List Char → Nat × List Char
  | [] => (significand, [])
  | c :: rest =>
    let next := significand * 10 + (c.toNat - '0'.toNat)
    if maxUnsigned < next then (significand, c :: rest) else gatherDigits next rest

/-- `significand · 10 ^ exponent`, by one multiplication or division with a power of ten, after
divisions by 1e308 while the exponent is far below it; `none` when the result is not finite. -/
def scaleFloat? (fuel : Nat) (value : Float) (exponent : Int) : Option Float :=
  if exponent.natAbs ≤ 308 then
    let power := Float.ofScientific 1 false exponent.natAbs
    if 0 ≤ exponent then
      let result := value * power
      if result.isInf then none else some result
    else some (value / power)
  else if value == 0.0 then some value
  else if 0 ≤ exponent then none
  else
    match fuel with
    | 0 => some 0.0
    | fuel + 1 => scaleFloat? fuel (value / 1e308) (exponent + 308)

/-- The greatest exponent that is read exactly. -/
def maxExponent : Nat := Nat.pow 2 31 - 1

/-- The exponent that digits write, if it is within bounds. -/
def exponentOf? (digits : List Char) : Option Nat :=
  let value := Nat.ofDigitChars 10 digits 0
  if value ≤ maxExponent then some value else none

/-- The double-precision number that a written number stands for. -/
def NumberText.toFloat? (text : NumberText) : Option Float :=
  let (whole, extra) := gatherDigits 0 text.whole
  let fraction := text.fraction.getD []
  let (significand, dropped) := gatherDigits whole fraction
  let used := fraction.length - dropped.length
  let shift : Int := (extra.length : Int) - used
  let magnitude : Option Float :=
    match text.exponent with
    | none => scaleFloat? 8 (UInt64.ofNat significand).toFloat shift
    | some (negative, digits) =>
      match exponentOf? digits with
      | some e =>
        let e : Int := if negative then shift - e else shift + e
        scaleFloat? 8 (UInt64.ofNat significand).toFloat e
      | none => if significand ≠ 0 ∧ ¬negative then none else some 0.0
  magnitude.map fun value => if text.negative then -value else value

/-- Interprets a written number. -/
def Number.ofText? (text : NumberText) : Option Number :=
  let float := (text.toFloat?).map fun value => Number.float value.toBits
  if text.fraction.isSome || text.exponent.isSome then float
  else
    let value := Nat.ofDigitChars 10 text.whole 0
    if text.negative then
      if value = 0 ∨ Nat.pow 2 63 < value then float else some (.int (-(value : Int)))
    else if value ≤ maxUnsigned then some (.int value)
    else float

/-! ## Objects -/

/-- The members sorted by key, the last of equal keys kept. -/
def sortMembers {α : Type} (members : List (String × α)) : List (String × α) :=
  (SortedMap.ofList members).toList

/-- The last value under a key. -/
def lookup? {α : Type} (key : String) (members : List (String × α)) : Option α :=
  (members.reverse.find? (·.1 = key)).map (·.2)

/-! ## Interpretation -/

mutual

/-- The value of a tree, its nesting unchecked. -/
def Value.interpret? : Tree → Option Value
  | .null => some .null
  | .bool b => some (.bool b)
  | .number text => (Number.ofText? text).map .number
  | .string parts => (textOf? parts).map .string
  | .array items => (interpretItems? items).map .array
  | .object members => (interpretMembers? members).map fun members => .object (sortMembers members)

/-- The values of a list of items. -/
def interpretItems? : List Tree → Option (List Value)
  | [] => some []
  | item :: rest => do
    let value ← Value.interpret? item
    let values ← interpretItems? rest
    return value :: values

/-- The members of an object, in the order in which they are written. -/
def interpretMembers? : List (List StringPart × Tree) → Option (List (String × Value))
  | [] => some []
  | (key, tree) :: rest => do
    let key ← textOf? key
    let value ← Value.interpret? tree
    let members ← interpretMembers? rest
    return (key, value) :: members

end

/-- The greatest depth of nesting that is accepted. -/
def maxDepth : Nat := 127

/-- The value of a tree that is not nested too deeply. -/
def Value.ofTree? (tree : Tree) : Option Value :=
  if tree.depth ≤ maxDepth then Value.interpret? tree else none

/-- The value of a whole text. -/
def Value.ofString? (text : String) : Option Value :=
  Tree.ofString? text >>= Value.ofTree?

/-! ## Access -/

namespace Value

/-- The member of an object under a key. -/
def get? (value : Value) (key : String) : Option Value :=
  match value with
  | .object members => lookup? key members
  | _ => none

/-- The text of a string. -/
def asString? : Value → Option String
  | .string s => some s
  | _ => none

/-- The integer of a number. -/
def asInt? : Value → Option Int
  | .number (.int i) => some i
  | _ => none

/-- The truth value. -/
def asBool? : Value → Option Bool
  | .bool b => some b
  | _ => none

/-- The items of an array. -/
def asArray? : Value → Option (List Value)
  | .array items => some items
  | _ => none

end Value

end Hostlink.Json
