import Hostlink.Text.Hex

/-!
# Tables of runs

A property of characters changes seldom along the code points, so a table of it is a list of runs of
neighbours that are alike.  Such a table is written as words: a letter, the number of characters in
the run in base sixteen (left out if it is one), and, behind a colon, what else there is to say
about the run.
-/

namespace Hostlink.Text

/-- The words between single blanks. -/
def words : List Char → List (List Char)
  | [] => [[]]
  | c :: rest =>
    if c = ' ' then [] :: words rest
    else
      match words rest with
      | [] => [[c]]
      | word :: more => (c :: word) :: more

/-- The number that digits of base sixteen write. -/
def readCode (digits : List Char) : Nat :=
  digits.foldl (fun value c => value * 16 + (hexValue? c).getD 0) 0

/-- The characters whose code points stand in a word with points between them. -/
def readCodes (word : List Char) : List Char :=
  (words (word.map fun c => if c = '.' then ' ' else c)).map fun digits =>
    Char.ofNat (readCode digits)

/-- A run of neighbours that are alike. -/
structure Run where
  /-- The first code point. -/
  start : Nat
  label : Char
  /-- What is said about the run besides its letter. -/
  detail : List Char
  deriving DecidableEq, Repr

/-- A table of runs, in the order of their code points. -/
abbrev RunTable := Array Run

namespace RunTable

/-- The run that a word writes, if it starts at a code point, and where the next one starts. -/
def readRun (start : Nat) : List Char → Run × Nat
  | [] => (⟨start, '-', []⟩, start)
  | label :: rest =>
    let digits := rest.takeWhile (· ≠ ':')
    let length := if digits.isEmpty then 1 else readCode digits
    (⟨start, label, rest.drop (digits.length + 1)⟩, start + length)

/-- The table that lines of words write, with its first run at a code point. -/
def ofLines (first : Nat) (lines : List String) : RunTable :=
  let all := lines.flatMap fun line => words line.toList
  (all.foldl (fun (table, start) word =>
    let (run, next) := readRun start word
    (table.push run, next)) (#[], first)).1

/-- The last of `count` runs from place `low` on that starts at a code point or below it. -/
def search (table : RunTable) (code : Nat) (low count : Nat) : Option Run :=
  if count ≤ 1 then table[low]?
  else
    let half := count / 2
    match table[low + half]? with
    | none => search table code low half
    | some run =>
      if run.start ≤ code then search table code (low + half) (count - half)
      else search table code low half
termination_by count
decreasing_by all_goals omega

/-- The run that a character is in. -/
def run? (table : RunTable) (c : Char) : Option Run := table.search c.toNat 0 table.size

/-- The letter of the run that a character is in. -/
def label (table : RunTable) (c : Char) : Char := ((table.run? c).map (·.label)).getD '-'

end RunTable
end Hostlink.Text
