import Hostlink.Text.Composition.Table

/-!
# Composed text

A character with marks can often be written in several ways: as one character, or as several.  In
composed text every character and mark that make up one character are written as that one, and the
marks that are left stand in a fixed order.
-/

namespace Hostlink.Text

/-! ## Syllables -/

/-- The first of the syllables that are composed by calculation. -/
def firstSyllable : Nat := 0xac00

/-- The code points before the first initial, vowel and final of a syllable. -/
def initialBase : Nat := 0x1100

/-- The first vowel of a syllable. -/
def vowelBase : Nat := 0x1161

/-- The code point before the first final of a syllable; a syllable may have none. -/
def finalBase : Nat := 0x11a7

/-- The numbers of initials, vowels and finals, no final among them. -/
def initialCount : Nat := 19

/-- The number of vowels. -/
def vowelCount : Nat := 21

/-- The number of finals, no final among them. -/
def finalCount : Nat := 28

/-- The parts of a syllable. -/
def splitSyllable? (c : Char) : Option (List Char) :=
  let index := c.toNat - firstSyllable
  if c.toNat < firstSyllable ∨ initialCount * vowelCount * finalCount ≤ index then none
  else
    let final := index % finalCount
    let front := [Char.ofNat (initialBase + index / (vowelCount * finalCount)),
      Char.ofNat (vowelBase + index / finalCount % vowelCount)]
    some (if final = 0 then front else front ++ [Char.ofNat (finalBase + final)])

/-- The syllable that a character and the next one make up. -/
def joinSyllable? (first second : Char) : Option Char :=
  let initial := first.toNat - initialBase
  let vowel := second.toNat - vowelBase
  let index := first.toNat - firstSyllable
  let final := second.toNat - finalBase
  if initialBase ≤ first.toNat ∧ initial < initialCount ∧ vowelBase ≤ second.toNat
      ∧ vowel < vowelCount then
    some (Char.ofNat (firstSyllable + (initial * vowelCount + vowel) * finalCount))
  else if firstSyllable ≤ first.toNat ∧ index < initialCount * vowelCount * finalCount
      ∧ index % finalCount = 0 ∧ finalBase < second.toNat ∧ final < finalCount then
    some (Char.ofNat (first.toNat + final))
  else none

/-! ## Parts -/

/-- The combining class of a character; it is zero unless the character is a mark. -/
def combiningClass (c : Char) : Nat :=
  if c.toNat < 0x300 then 0
  else
    match classTable.run? c with
    | some run => if run.label = 'c' then Nat.ofDigitChars 10 run.detail 0 else 0
    | none => 0

/-- The character that a character and the next one make up. -/
def joined? (first second : Char) : Option Char :=
  match joinSyllable? first second with
  | some c => some c
  | none => (pairTable.find? fun (a, b, _) => a = first && b = second).map (·.2.2)

/-- How often a character can be taken apart at most. -/
def maxParts : Nat := 2

/-- The parts of a character, down to those that cannot be taken apart. -/
def partsOf : Nat → Char → List Char
  | 0, c => [c]
  | depth + 1, c =>
    match splitSyllable? c with
    | some parts => parts
    | none =>
      match pairTable.find? fun (_, _, both) => both = c with
      | some (first, second, _) => partsOf depth first ++ [second]
      | none => [c]

/-- Puts a mark behind those before it that belong nearer to the character; the last character comes
first. -/
def insertMark (c : Char) : List Char → List Char
  | [] => [c]
  | last :: before =>
    if combiningClass c < combiningClass last ∧ combiningClass c ≠ 0 then
      last :: insertMark c before
    else c :: last :: before

/-- Puts the marks of every character in order. -/
def orderMarks (cs : List Char) : List Char :=
  (cs.foldl (fun done c => insertMark c done) []).reverse

/-! ## Composition -/

/-- Composes characters behind a character and the marks that it keeps, the last one first.  A mark
can be joined to the character unless a mark before it has the same or a higher class. -/
def composeFrom (starter : Option Char) (kept : List Char) : List Char → List Char
  | [] => starter.toList ++ kept.reverse
  | c :: rest =>
    let free :=
      match kept with
      | [] => true
      | last :: _ => combiningClass last < combiningClass c
    match if free then starter.bind (joined? · c) else none with
    | some both => composeFrom (some both) kept rest
    | none =>
      if combiningClass c = 0 then starter.toList ++ kept.reverse ++ composeFrom (some c) [] rest
      else composeFrom starter (c :: kept) rest

/-- The composed form of a text. -/
def compose (cs : List Char) : List Char :=
  composeFrom none [] (orderMarks (cs.flatMap (partsOf maxParts)))

end Hostlink.Text
