import Hostlink.Error
import Hostlink.Text.Hex

/-!
# Paths

A path is a sequence of components, separated by slashes.  It begins at the root of the tree or at
the directory in which the program works.  A path is only a way to go: whether it leads somewhere
is a question to the tree.
-/

namespace Hostlink.Storage

/-- The name of a file or directory.  It need not be text. -/
abbrev Name := Bytes

/-- One step along a path. -/
inductive Component where
  /-- Stays in the directory. -/
  | here
  /-- Goes up to the directory that holds this one. -/
  | up
  | named (name : Name)
  deriving DecidableEq, Repr

/-- A way through the tree, as it is written. -/
structure Path where
  /-- The pieces between separators, the last one first.  A separator at an end has an empty piece
  beside it. -/
  pieces : List Bytes
  deriving DecidableEq, Repr

/-- The byte that separates components. -/
def separator : UInt8 := 0x2f

/-- The byte that no name can hold. -/
def zeroByte : UInt8 := 0

/-- The byte that makes up the names of this directory and of the one above. -/
def dot : UInt8 := 0x2e

/-- The most bytes a name can have. -/
def nameLimit : Nat := 255

/-- The most bytes a path can have. -/
def pathLimit : Nat := 4095

/-- The pieces between separators; a separator at an end has an empty piece beside it. -/
def splitPieces : Bytes → List Bytes
  | [] => [[]]
  | b :: rest =>
    if b = separator then [] :: splitPieces rest
    else
      match splitPieces rest with
      | [] => [[b]]
      | piece :: pieces => (b :: piece) :: pieces

/-- The component that a piece stands for; an empty one stands for none. -/
def Component.ofPiece? (piece : Bytes) : Option Component :=
  if piece = [] then none
  else if piece = [dot] then some .here
  else if piece = [dot, dot] then some .up
  else some (.named piece)

/-- Whether a piece leads nowhere from where the pieces before it lead.  A dot counts only as the
first piece. -/
def isSkipped (piece : Bytes) (before : List Bytes) : Bool :=
  piece = [] || piece = [dot] && !before.isEmpty

/-- The paths to the end of each piece that leads on, the longest first. -/
def prefixes : List Bytes → List Path
  | [] => []
  | piece :: before =>
    if isSkipped piece before then prefixes before else ⟨piece :: before⟩ :: prefixes before

namespace Path

/-- The path that bytes write. -/
def ofBytes (bytes : Bytes) : Path := ⟨(splitPieces bytes).reverse⟩

/-- The path that a text writes. -/
def ofText (text : String) : Path := ofBytes text.toUTF8.toList

/-- Whether the path begins at the root. -/
def absolute (p : Path) : Bool := 2 ≤ p.pieces.length && p.pieces.getLast? = some []

/-- Whether a separator follows the last component. -/
def trailing (p : Path) : Bool := 2 ≤ p.pieces.length && p.pieces.head? = some []

/-- The components, the last one first. -/
def components (p : Path) : List Component := p.pieces.filterMap Component.ofPiece?

/-- The number of bytes that write the path, every separator counted. -/
def size (p : Path) : Nat := (p.pieces.flatMap (separator :: ·)).length - 1

/-- Why no system call takes the path, if that is so. -/
def fault? (p : Path) : Option IoFault :=
  if p.pieces.any (·.contains zeroByte) then some .zeroInName
  else if !p.absolute && p.components.isEmpty then some .notFound
  else if pathLimit < p.size then some .nameTooLong
  else none

/-- The paths to the directories that hold what the path leads to, the innermost first. -/
def above (p : Path) : List Path := (prefixes p.pieces).tail

/-- The path and the paths to the directories above; none for the root. -/
def upward (p : Path) : List Path := if (prefixes p.pieces).isEmpty then [] else p :: p.above

end Path
end Hostlink.Storage
