import Hostlink.Text.Hex

/-!
# Characters that steer terminals

Text from elsewhere could move the cursor or change the colours of the terminal that it is printed
to.  The characters that can are spelled out.
-/

namespace Hostlink.Text

/-- The characters below the first extended control that begin or end a control sequence. -/
def steeringChars : List Char := ['\x07', '\x08', '\x0c', '\x1b', '\x7f']

/-- One character, spelled out if it steers terminals. -/
def escapeSteering (c : Char) : List Char :=
  if c ∈ steeringChars then '\\' :: 'x' :: hexFixed 2 c.toNat
  else if 0x80 ≤ c.toNat ∧ c.toNat ≤ 0x9f then
    ['\\', 'u', '\x7b'] ++ hexNat c.toNat ++ ['\x7d']
  else [c]

/-- A text that steers no terminal. -/
def escapeControls (s : String) : String := String.ofList (s.toList.flatMap escapeSteering)

end Hostlink.Text
