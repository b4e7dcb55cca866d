import Hostlink.Pattern.SetReader

/-!
# Reading patterns

Patterns are written in the usual form: a point, sets in square brackets, groups in parentheses,
alternatives with bars between them, and the marks for repetition, each of which a question mark
makes reluctant.
-/

namespace Hostlink.Pattern

/-- Why a text is no pattern. -/
inductive Fault where
  | malformed
  /-- It asks for an edge of words beyond ASCII, which no pattern can. -/
  | wideEdge
  deriving DecidableEq, Repr

/-- One of several things in sequence. -/
inductive Item where
  /-- A change of flags. -/
  | switch
  | piece (what : Nested Pattern)
  deriving DecidableEq, Repr

/-- The pattern of an item. -/
def Item.toPattern : Item → Nested Pattern
  | .switch => ⟨.empty, 0⟩
  | .piece what => what

/-- Things in sequence. -/
def sequence : List Item → Nested Pattern
  | [] => ⟨.empty, 0⟩
  | [item] => item.toPattern
  | items =>
    let pieces := items.map (·.toPattern)
    ⟨(pieces.map (·.value)).foldr .seq .empty, deeper (pieces.map (·.depth))⟩

/-- One of several patterns, the first of which is preferred. -/
def preferred : List Pattern → Pattern
  | [] => .empty
  | [last] => last
  | first :: rest => .either first (preferred rest)

/-- Alternatives. -/
def alternatives : List (Nested Pattern) → Nested Pattern
  | [branch] => branch
  | branches => ⟨preferred (branches.map (·.value)), deeper (branches.map (·.depth))⟩

/-- Whether a character can be in the name of a group. -/
def isInName (first : Bool) (c : Char) : Bool :=
  c = '_' || if first then Text.isAlphabetic c else c ∈ ['.', '[', ']'] || Text.isAlphanumeric c

/-- Reads the name of a group and the mark behind it; no two groups have one name. -/
def readName : Reader Unit := do
  let s ← get
  let name := s.rest.takeWhile (· ≠ '>')
  let written := String.ofList name
  match name, s.rest.dropWhile (· ≠ '>') with
  | first :: more, _ :: rest =>
    if !isInName true first || !more.all (isInName false) || s.names.contains written then failure
    else set { s with rest, names := written :: s.names }
  | _, _ => failure

/-- Reads what stands behind the opening parenthesis of a group: nothing, a name, or flags.  Tells
whether the parenthesis is closed already, which is so if it holds nothing but flags. -/
def readGroupMarks : Reader Bool := do
  Reader.skip
  if ← Reader.accept ['?', 'P', '<'] then
    readName
    return false
  else if ← Reader.accept ['?', '<'] then
    readName
    return false
  else if ← Reader.accept ['?'] then
    let s ← get
    let letters := s.rest.takeWhile fun c => c ≠ ':' && c ≠ ')'
    let flags ← Reader.lift (s.flags.switched? letters)
    match s.rest.drop letters.length with
    | ')' :: rest =>
      if letters.isEmpty then failure
      set { s with rest, flags }
      return true
    | _ :: rest =>
      set { s with rest, flags }
      return false
    | [] => failure
  else return false

/-- Reads something primitive. -/
def readPrimitive : Reader Pattern := do
  let s ← get
  let primitive ← Primitive.read
  if primitive = .wideEdge then modify fun s => { s with asksWideEdge := true }
  Reader.lift (primitive.toPattern s.flags)

mutual

/-- Reads alternatives up to the end of a group or of the text. -/
def readAlternatives : Nat → Reader (List (Nested Pattern))
  | 0 => failure
  | fuel + 1 => do
    let items ← readSequence fuel []
    let branch := sequence items.reverse
    if ← Reader.accept ['|'] then
      let branches ← readAlternatives fuel
      return branch :: branches
    else return [branch]

/-- Reads things in sequence up to a bar, or to the end of a group or of the text, behind those that
have been read, the last one first. -/
def readSequence : Nat → List Item → Reader (List Item)
  | 0, _ => failure
  | fuel + 1, items => do
    Reader.skip
    let s ← get
    match s.rest with
    | [] | '|' :: _ | ')' :: _ => return items
    | '\x7b' :: _ => failure
    | '(' :: rest =>
      set { s with rest }
      let item ← readGroup fuel
      readSequence fuel (item :: items)
    | '[' :: rest =>
      set { s with rest }
      let chars ← readSet fuel
      readSequence fuel (.piece ⟨.one chars.value, chars.depth⟩ :: items)
    | mark :: rest =>
      if mark ∈ ['*', '+', '?'] then
        match items with
        | .piece piece :: before =>
          set { s with rest }
          let marked ← Reader.accept ['?']
          let repeated := s.flags.repeated mark marked piece.value
          readSequence fuel (.piece ⟨repeated, piece.depth + 1⟩ :: before)
        | _ => failure
      else
        let pattern ← readPrimitive
        readSequence fuel (.piece ⟨pattern, 0⟩ :: items)

/-- Reads a group behind its opening parenthesis.  Its flags end with it. -/
def readGroup : Nat → Reader Item
  | 0 => failure
  | fuel + 1 => do
    let s ← get
    if ← readGroupMarks then return .switch
    else
      let branches ← readAlternatives fuel
      let inner := alternatives branches
      if ← Reader.accept [')'] then
        modify fun t => { t with flags := s.flags }
        return .piece ⟨inner.value, inner.depth + 1⟩
      else failure

end

/-- The deepest nesting that is accepted. -/
def depthLimit : Nat := 250

/-- The pattern that a text writes. -/
def ofChars (cs : List Char) : Except Fault Pattern :=
  match (readAlternatives (4 * cs.length + 4)).run ⟨cs, .plain, [], false⟩ with
  | none => .error .malformed
  | some (branches, source) =>
    let pattern := alternatives branches
    if !source.rest.isEmpty || depthLimit < pattern.depth then .error .malformed
    else if source.asksWideEdge then .error .wideEdge
    else .ok pattern.value

end Hostlink.Pattern
