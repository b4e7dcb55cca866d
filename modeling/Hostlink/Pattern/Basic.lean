import Hostlink.Pattern.CharSet

/-!
# Patterns for texts

A pattern says which pieces of a text it matches, and in which order of preference.  The search in
a text finds the piece that begins first, and of several such pieces the preferred one.

`Pattern.firsts` lists the ways in which a match can begin: with nothing more to match, or with one
character and a pattern for what follows it.  The order of the list is the order of preference, so
the search is a run through the text that keeps such a list, and cuts it behind the first complete
match.
-/

namespace Hostlink

/-- A kind of place between characters. -/
inductive Edge where
  /-- Before the whole text. -/
  | textStart
  /-- Behind the whole text. -/
  | textEnd
  /-- Before a line, or before the whole text. -/
  | lineStart
  /-- Behind a line, or behind the whole text. -/
  | lineEnd
  /-- As `lineStart`, with lines that can also end with a carriage return, or with both marks. -/
  | pairedLineStart
  | pairedLineEnd
  /-- Where a word of ASCII characters begins or ends. -/
  | wordEdge
  /-- Where no such word begins or ends. -/
  | noWordEdge
  | wordStart
  | wordEnd
  deriving DecidableEq, Repr

/-- A pattern. -/
inductive Pattern where
  /-- The empty piece. -/
  | empty
  /-- One character of a set. -/
  | one (set : CharSet)
  /-- The empty piece at a kind of place. -/
  | place (edge : Edge)
  /-- One pattern and then another one. -/
  | seq (first second : Pattern)
  /-- One pattern or, less preferred, another one. -/
  | either (first second : Pattern)
  /-- A pattern any number of times, rather often if it is eager and rather seldom if not. -/
  | many (eager : Bool) (body : Pattern)
  deriving DecidableEq, Repr

namespace Edge

/-- Whether a character, if there is one, is part of a word of ASCII characters. -/
def inWord (c : Option Char) : Bool := c.any fun c => CharSet.asciiWords.contains c

/-- Whether the place between two characters is of the kind; at an end of the text there is no
character on one side. -/
def holds (before after : Option Char) : Edge → Bool
  | .textStart => before.isNone
  | .textEnd => after.isNone
  | .lineStart => before.isNone || before = some '\n'
  | .lineEnd => after.isNone || after = some '\n'
  | .pairedLineStart =>
    before.isNone || before = some '\n' || before = some '\r' && after ≠ some '\n'
  | .pairedLineEnd =>
    after.isNone || after = some '\r' || after = some '\n' && before ≠ some '\r'
  | .wordEdge => inWord before != inWord after
  | .noWordEdge => inWord before == inWord after
  | .wordStart => !inWord before && inWord after
  | .wordEnd => inWord before && !inWord after

end Edge

namespace Pattern

/-- How a match can begin. -/
inductive Beginning where
  /-- It is complete. -/
  | complete
  /-- It goes on with a character of a set, and then with the rest. -/
  | character (set : CharSet) (rest : Pattern)
  deriving DecidableEq, Repr

/-- One pattern and then another one; the empty piece is left out. -/
def followedBy (first second : Pattern) : Pattern :=
  if first = .empty then second else .seq first second

/-- What is still to be matched if another pattern is to follow. -/
def Beginning.andThen (next : Pattern) (following : List Beginning) : Beginning → List Beginning
  | .complete => following
  | .character set rest => [.character set (rest.followedBy next)]

/-- The ways in which a match can begin at the place between two characters, the preferred ones
first; what comes twice counts where it comes first.  A repetition that would match nothing counts
as its end. -/
def firsts (before after : Option Char) : Pattern → List Beginning
  | .empty => [.complete]
  | .one set => [.character set .empty]
  | .place edge => if edge.holds before after then [.complete] else []
  | .seq first second =>
    ((first.firsts before after).flatMap
      (Beginning.andThen second (second.firsts before after))).eraseDups
  | .either first second => (first.firsts before after ++ second.firsts before after).eraseDups
  | .many eager body =>
    let again := (body.firsts before after).flatMap
      (Beginning.andThen (.many eager body) [.complete])
    (if eager then again ++ [.complete] else .complete :: again).eraseDups

/-- What is left of a match after a character. -/
def Beginning.advance? (c : Char) : Beginning → Option Pattern
  | .complete => none
  | .character set rest => if set.contains c then some rest else none

/-- Goes on with matches in progress, the preferred ones first; while it is still seeking, a match
of `p` can begin at every place.  Tells whether the match that is found in the end is one that ends
behind the last character. -/
def searchFrom (p : Pattern) : Option Char → Bool → List Pattern → List Char → Bool
  | before, seeking, active, cs =>
    let open_ := if seeking then active ++ [p] else active
    let ways := open_.eraseDups.flatMap (firsts before cs.head?)
    let found := ways.contains .complete
    match cs with
    | [] => found
    | c :: rest =>
      let next := (ways.takeWhile (· ≠ .complete)).filterMap (Beginning.advance? c)
      searchFrom p (some c) (seeking && !found) next rest

/-- Whether the match that a search finds first in a text reaches to the end of the text. -/
def reachesEnd (p : Pattern) (text : String) : Bool := p.searchFrom none true [] text.toList

end Pattern
end Hostlink
