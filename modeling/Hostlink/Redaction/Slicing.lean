import Hostlink.Redaction
import Hostlink.Text.Cut

/-!
# Scrubbing by slices

A text in memory is not taken apart character by character: marks are found as places in it,
counted in bytes, and the text is sliced there.  A slice that does not end between two characters of
the text is a fault, and so is one that ends beyond the text.
-/

namespace Hostlink.Redaction

open Text (cutAt? encodedLength)

/-- The place of the first character that satisfies `p`. -/
def place? (p : Char → Bool) : List Char → Option Nat
  | [] => none
  | c :: rest => if p c then some 0 else (place? p rest).map (c.utf8Size + ·)

/-- The place of the last character that satisfies `p`. -/
def lastPlace? (p : Char → Bool) : List Char → Option Nat
  | [] => none
  | c :: rest =>
    match lastPlace? p rest with
    | some place => some (c.utf8Size + place)
    | none => if p c then some 0 else none

/-- The place where a word occurs first. -/
def wordPlace? (word : List Char) : List Char → Option Nat
  | [] => if word.isEmpty then some 0 else none
  | c :: rest =>
    if word.isPrefixOf (c :: rest) then some 0 else (wordPlace? word rest).map (c.utf8Size + ·)

/-- Slices a text in front of its first character that satisfies `p`, or else at its end. -/
def sliceAt? (p : Char → Bool) (cs : List Char) : Option (List Char × List Char) :=
  cutAt? ((place? p cs).getD (encodedLength cs)) cs

/-- Slices a text behind its first `://`, or else at its beginning. -/
def sliceScheme? (cs : List Char) : Option (List Char × List Char) :=
  match wordPlace? [':', '/', '/'] cs with
  | some place => cutAt? (place + 3) cs
  | none => some ([], cs)

/-- Scrubs a URL by slices of it; `none` if one of them is at fault. -/
def sliceChars? (cs : List Char) : Option (List Char) := do
  let (base, _) ← sliceAt? endsHierarchy cs
  let (scheme, rest) ← sliceScheme? base
  let (authority, _) ← sliceAt? (· = '/') rest
  match lastPlace? (· = '@') authority with
  | some place =>
    let (_, kept) ← cutAt? (place + 1) rest
    return scheme ++ kept
  | none => return base

/-- Scrubs a URL by slices of it. -/
def sliceUrl? (url : String) : Option String := (sliceChars? url.toList).map String.ofList

end Hostlink.Redaction
