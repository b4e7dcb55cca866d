import Hostlink.Http.Url.Percent

/-!
# Paths of URLs

A path is read piece by piece between slashes.  A piece of one dot stays, a piece of two dots goes
back by one segment; anything else becomes a segment of its own.

Files have names that begin with the letter of a drive.  The letter is written with a colon at the
beginning of a file's path, and going back never leaves a drive.
-/

namespace Hostlink.Http.Url

/-- A text cut at every occurrence of a character. -/
def splitAtChar (mark : Char) : List Char → List (List Char)
  | [] => [[]]
  | c :: rest =>
    if c = mark then [] :: splitAtChar mark rest
    else
      match splitAtChar mark rest with
      | [] => [[c]]
      | piece :: pieces => (c :: piece) :: pieces

/-- Whether a character separates segments. -/
def isSlash (special : Bool) (c : Char) : Bool := c = '/' || (special && c = '\\')

/-- Whether a piece stays. -/
def isSingleDot (piece : List Char) : Bool := String.ofList (piece.map Char.toLower) ∈ [".", "%2e"]

/-- Whether a piece goes back. -/
def isDoubleDot (piece : List Char) : Bool :=
  String.ofList (piece.map Char.toLower) ∈ ["..", ".%2e", "%2e.", "%2e%2e"]

/-- A mark behind the letter of a drive. -/
def isDriveMark (c : Char) : Bool := c = ':' || c = '|'

/-- Whether a text is the letter of a drive and its mark. -/
def isDrive : List Char → Bool
  | [letter, mark] => letter.isAlpha && isDriveMark mark
  | _ => false

/-- Whether a segment begins with the letter of a drive, so that going back does not leave it. -/
def holdsDrive : List Char → Bool
  | [letter, mark] => letter.isAlpha && isDriveMark mark
  | letter :: mark :: next :: _ => letter.isAlpha && isDriveMark mark && next ∈ ['\\', '?', '#']
  | _ => false

/-- A path of which a part has been read. -/
structure PathReading where
  /-- The path so far, its last character first.  It begins and ends with a slash as long as a
  further piece is to be read. -/
  written : List Char
  /-- Whether the path begins with a drive. -/
  foundDrive : Bool
  deriving DecidableEq, Repr

namespace PathReading

/-- The path before the first piece. -/
def start : PathReading := ⟨['/'], false⟩

/-- Adds encoded characters. -/
def push (r : PathReading) (cs : List Char) : PathReading :=
  { r with written := cs.reverse ++ r.written }

/-- Goes back by one segment, if there is one and it holds no drive. -/
def back (r : PathReading) : PathReading :=
  let segment := (r.written.tail.takeWhile (· ≠ '/')).reverse
  if !r.written.tail.contains '/' || holdsDrive segment then r
  else { r with written := r.written.tail.dropWhile (· ≠ '/') }

/-- Adds a segment.  A drive that is the first segment of a file's path is written with a colon. -/
def addSegment (file : Bool) (r : PathReading) (piece : List Char) : PathReading :=
  match piece with
  | [letter, _] =>
    if file && r.written = ['/'] && isDrive piece then
      { r.push [letter, ':'] with foundDrive := true }
    else r.push (percentEncodeChars encodedInPath piece)
  | piece => r.push (percentEncodeChars encodedInPath piece)

/-- Reads the pieces in order. -/
def follow (file : Bool) (r : PathReading) : List (List Char) → PathReading
  | [] => r
  | piece :: rest =>
    let isLast := rest.isEmpty
    if isDoubleDot piece then follow file r.back rest
    else if isSingleDot piece then follow file r rest
    else
      let r := r.addSegment file piece
      follow file (if isLast then r else r.push ['/']) rest

end PathReading

/-- Reads a path that stands behind a slash. -/
def readPath (special file : Bool) (cs : List Char) : PathReading :=
  PathReading.start.follow file
    (splitAtChar '/' (cs.map fun c => if isSlash special c then '/' else c))

/-- The text of a path. -/
def PathReading.text (r : PathReading) : String := String.ofList r.written.reverse

/-- The text of a file's path, which begins with one slash only. -/
def PathReading.fileText (r : PathReading) : String :=
  String.ofList ('/' :: r.written.reverse.dropWhile (· = '/'))

end Hostlink.Http.Url
