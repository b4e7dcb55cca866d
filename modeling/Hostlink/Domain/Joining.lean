import Hostlink.Domain.JoiningTable
import Hostlink.Text.Category
import Hostlink.Text.Composition.Basic

/-!
# Joiners

Two characters without ink say whether the letters beside them join.  They are allowed only where
they can make a difference: behind a mark that takes away a vowel, and the one that keeps letters
apart also between letters that would join.
-/

namespace Hostlink.Domain

/-- The combining class of the marks that take away a vowel. -/
def vowelKiller : Nat := 9

/-- Whether the first character that is not looked through joins on a side. -/
def joinsWith (side : Char) : List Char → Bool
  | [] => false
  | c :: rest =>
    match joiningTable.label c with
    | 't' => joinsWith side rest
    | label => label = 'd' || label = side

/-- Whether a joiner can stand between characters, the nearest one first on each side. -/
def joinerFits (c : Char) (before behind : List Char) : Bool :=
  match before with
  | [] => false
  | last :: _ =>
    Text.combiningClass last = vowelKiller
      || c = Text.nonJoiner && joinsWith 'l' before && joinsWith 'r' behind

/-- Whether all joiners stand where they can; `before` has what is gone past, the last one first. -/
def joinersFit (before : List Char) : List Char → Bool
  | [] => true
  | c :: rest =>
    (if c = Text.nonJoiner ∨ c = Text.joiner then joinerFits c before rest else true)
      && joinersFit (c :: before) rest

end Hostlink.Domain
