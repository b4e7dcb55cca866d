import Hostlink.Pattern.Source

/-!
# Sets in brackets

A set lists characters and ranges of characters between square brackets.  It can hold other sets,
and sets can be combined.  How deep a set is nested counts the brackets, the lists and the
combinations around its innermost part.
-/

namespace Hostlink.Pattern

/-- Something together with the depth of its nesting. -/
structure Nested (α : Type) where
  value : α
  depth : Nat
  deriving DecidableEq, Repr

/-- The greatest of several depths, and one more. -/
def deeper (depths : List Nat) : Nat := depths.foldl max 0 + 1

/-- A combination of sets, of which the right one is to come. -/
inductive Combination where
  | first
  | inter (left : Nested CharSet)
  | diff (left : Nested CharSet)
  | symmDiff (left : Nested CharSet)
  deriving DecidableEq, Repr

namespace Combination

/-- The set of the items of a list. -/
def listed : List (Nested CharSet) → Nested CharSet
  | [] => ⟨.none, 0⟩
  | [item] => item
  | items => ⟨.unions (items.map (·.value)), deeper (items.map (·.depth))⟩

/-- The combination with its right set. -/
def complete (combination : Combination) (right : Nested CharSet) : Nested CharSet :=
  match combination with
  | .first => right
  | .inter left => ⟨.inter left.value right.value, deeper [left.depth, right.depth]⟩
  | .diff left => ⟨.diff left.value right.value, deeper [left.depth, right.depth]⟩
  | .symmDiff left => ⟨.symmDiff left.value right.value, deeper [left.depth, right.depth]⟩

end Combination

/-- Reads a character of a set or a range of characters.  A hyphen before a bracket or before
another hyphen is not for a range. -/
def readRange : Reader CharSet := do
  let low ← Primitive.readMember
  Reader.skip
  let s ← get
  match s.rest with
  | [] => failure
  | '-' :: rest =>
    if (s.ahead rest).head? ∈ [some ']', some '-'] then Reader.lift (low.toMember s.flags)
    else
      set { s with rest := s.ahead rest }
      let high ← Primitive.readMember
      match low, high with
      | .literal low, .literal high => Reader.lift (s.flags.range? low high)
      | _, _ => failure
  | _ => Reader.lift (low.toMember s.flags)

/-- A set with a name behind an opening bracket: whether it is negated, its characters, and what
follows. -/
def namedSet? : List Char → Option (Bool × CharSet × List Char)
  | ':' :: rest =>
    let (negated, rest) := match rest with
      | '^' :: rest => (true, rest)
      | rest => (false, rest)
    match rest.dropWhile (· ≠ ':') with
    | ':' :: ']' :: behind =>
      (CharSet.ofName? (String.ofList (rest.takeWhile (· ≠ ':')))).map (negated, ·, behind)
    | _ => none
  | _ => none

/-- Reads hyphens, which stand for themselves at the beginning of a set. -/
def readHyphens : Nat → Reader (List (Nested CharSet))
  | 0 => return []
  | fuel + 1 => do
    if ← Reader.accept ['-'] then
      Reader.skip
      let more ← readHyphens fuel
      return ⟨.single '-', 0⟩ :: more
    else return []

mutual

/-- Reads a set behind its opening bracket.  A closing bracket at the beginning stands for
itself. -/
def readSet : Nat → Reader (Nested CharSet)
  | 0 => failure
  | fuel + 1 => do
    Reader.skip
    let negated ← Reader.accept ['^']
    Reader.skip
    let hyphens ← readHyphens fuel
    let atStart ← if hyphens.isEmpty then Reader.accept [']'] else pure false
    let items := if atStart then [⟨.single ']', 0⟩] else hyphens
    let set ← readItems fuel .first items
    let s ← get
    let chars ← Reader.lift (s.flags.negate? negated set.value)
    return ⟨chars, set.depth + 1⟩

/-- Reads the items of a set up to its closing bracket, behind those that have been read. -/
def readItems : Nat → Combination → List (Nested CharSet) → Reader (Nested CharSet)
  | 0, _, _ => failure
  | fuel + 1, combination, items => do
    Reader.skip
    let s ← get
    let left := combination.complete (Combination.listed items)
    match s.rest with
    | [] => failure
    | ']' :: rest =>
      set { s with rest }
      return left
    | '[' :: rest =>
      match namedSet? rest with
      | some (negated, chars, behind) =>
        let chars ← Reader.lift (s.flags.named? negated chars)
        set { s with rest := behind }
        readItems fuel combination (⟨chars, 0⟩ :: items)
      | none =>
        set { s with rest }
        let item ← readSet fuel
        readItems fuel combination (item :: items)
    | '&' :: '&' :: rest =>
      set { s with rest }
      readItems fuel (.inter left) []
    | '-' :: '-' :: rest =>
      set { s with rest }
      readItems fuel (.diff left) []
    | '~' :: '~' :: rest =>
      set { s with rest }
      readItems fuel (.symmDiff left) []
    | _ =>
      let chars ← readRange
      readItems fuel combination (⟨chars, 0⟩ :: items)

end

end Hostlink.Pattern
