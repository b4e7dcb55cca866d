import Hostlink.Text.Quoted

/-!
# Cutting texts by bytes

A text can be cut at any place between two characters.  Places are counted in bytes of the encoded
text, so a place can also lie inside a character, where no cut is possible.
-/

namespace Hostlink.Text

/-- The number of bytes that encode characters. -/
def encodedLength (cs : List Char) : Nat := (cs.map Char.utf8Size).foldl (· + ·) 0

/-- The two parts of a text around a place, if the place is between characters. -/
def cutAt? : Nat → List Char → Option (List Char × List Char)
  | 0, cs => some ([], cs)
  | _ + 1, [] => none
  | n, c :: rest =>
    if n < c.utf8Size then none
    else (cutAt? (n - c.utf8Size) rest).map fun (before, behind) => (c :: before, behind)

/-- The character that a place lies in, and where this character begins. -/
def characterAt? (place : Nat) : List Char → Nat → Option (Char × Nat)
  | [], _ => none
  | c :: rest, start =>
    if place < start + c.utf8Size then some (c, start)
    else characterAt? place rest (start + c.utf8Size)

/-- The most bytes of a text that a complaint about it shows. -/
def shownLimit : Nat := 256

/-- The characters that fit into a number of bytes. -/
def fitting : Nat → List Char → List Char
  | _, [] => []
  | n, c :: rest => if c.utf8Size ≤ n then c :: fitting (n - c.utf8Size) rest else []

/-- A character in quotes. -/
def quoteSingle (c : Char) : String :=
  let shown := if c = '"' then ['"'] else if c = '\'' then ['\\', '\''] else quoteChar c
  String.ofList ('\'' :: (shown ++ ['\'']))

/-- The complaint about a place inside a character; `edge` says what should have been there. -/
def cutComplaint (edge : String) (place : Nat) (cs : List Char) : String :=
  let shown := fitting shownLimit cs
  let rest := if shown.length < cs.length then "[...]" else ""
  let (c, start) := (characterAt? place cs 0).getD ('\x00', 0)
  let stop := start + c.utf8Size
  s!"{edge} byte index {place} is not a char boundary; it is inside {quoteSingle c} "
    ++ s!"(bytes {start}..{stop}) of " ++ "`" ++ String.ofList shown ++ "`" ++ rest

/-- The part of a text from a place on, or the complaint about the place. -/
def suffixFrom (start : Nat) (cs : List Char) : Except String (List Char) :=
  match cutAt? start cs with
  | some (_, suffix) => .ok suffix
  | none => .error (cutComplaint "start" start cs)

/-- The part of a text between two places, or the complaint about one of them. -/
def between (start stop : Nat) (cs : List Char) : Except String (List Char) := do
  let suffix ← suffixFrom start cs
  match cutAt? (stop - start) suffix with
  | some (part, _) => return part
  | none => .error (cutComplaint "end" stop cs)

end Hostlink.Text
