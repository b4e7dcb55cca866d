import Hostlink.Domain.Name
import Hostlink.Http.Url.Path

/-!
# Hosts

A host is a name, an address of four numbers, or an address of eight groups in square brackets.
Addresses have many spellings, of which one is the normal one.  Names have an ASCII form.
-/

namespace Hostlink.Http.Url

/-! ## Addresses of four numbers -/

/-- The number that digits of a base write; no digits write zero. -/
def numberIn? (base : Nat) (digits : List Char) : Option Nat :=
  digits.foldl (fun value c => do
    let value ← value
    let digit ← Text.hexValue? c
    if digit < base then some (value * base + digit) else none) (some 0)

/-- The number that one part of an address writes, in base sixteen, eight or ten. -/
def addressPart? : List Char → Option Nat
  | [] => none
  | ['0'] => some 0
  | '0' :: 'x' :: digits => numberIn? 16 digits
  | '0' :: 'X' :: digits => numberIn? 16 digits
  | '0' :: digits => numberIn? 8 digits
  | digits => numberIn? 10 digits

/-- The parts between points; a point at the end does not count. -/
def addressParts (cs : List Char) : List (List Char) :=
  let parts := splitAtChar '.' cs
  if 1 < parts.length && parts.getLast? = some [] then parts.dropLast else parts

/-- Whether a name ends like an address, so that it has to be one. -/
def endsInNumber (cs : List Char) : Bool :=
  match (addressParts cs).getLast? with
  | none => false
  | some last => (!last.isEmpty && last.all Char.isDigit) || (addressPart? last).isSome

/-- The number that the parts make up together; the last one fills all places that are left. -/
def combineParts? (count : Nat) : List Nat → Option Nat
  | [] => none
  | [last] => if last < Nat.pow 256 (4 - count) then some last else none
  | part :: rest => do
    if 255 < part then none
    else
      let value ← combineParts? (count + 1) rest
      return part * Nat.pow 256 (3 - count) + value

/-- The address of four numbers that a text writes. -/
def fourNumbers? (cs : List Char) : Option Nat := do
  let parts := addressParts cs
  if 4 < parts.length then none
  else
    let numbers ← parts.mapM addressPart?
    combineParts? 0 numbers

/-- The normal spelling of an address of four numbers. -/
def writeFourNumbers (address : Nat) : String :=
  ".".intercalate ([3, 2, 1, 0].map fun place => toString (address / Nat.pow 256 place % 256))

/-! ## Addresses of eight groups -/

/-- The number of a group of one to four digits. -/
def group? (digits : List Char) : Option Nat :=
  if digits.isEmpty || 4 < digits.length then none else numberIn? 16 digits

/-- A number up to 255 without needless zeros. -/
def plainByte? (digits : List Char) : Option Nat :=
  match digits with
  | ['0'] => some 0
  | '0' :: _ => none
  | [] => none
  | digits =>
    match numberIn? 10 digits with
    | some value => if value ≤ 255 then some value else none
    | none => none

/-- The two groups that four numbers at the end stand for. -/
def embedded? (cs : List Char) : Option (List Nat) :=
  match (splitAtChar '.' cs).mapM plainByte? with
  | some [a, b, c, d] => some [a * 256 + b, c * 256 + d]
  | _ => none

/-- The groups of pieces; only the last one may have the form of four numbers. -/
def pieceGroups? (mayEmbed : Bool) : List (List Char) → Option (List Nat)
  | [] => some []
  | [last] =>
    if mayEmbed && last.contains '.' then embedded? last else (group? last).map ([·])
  | piece :: rest => do
    let first ← group? piece
    let groups ← pieceGroups? mayEmbed rest
    return first :: groups

/-- The groups between colons; an empty text has none. -/
def groups? (mayEmbed : Bool) (cs : List Char) : Option (List Nat) :=
  if cs.isEmpty then some [] else pieceGroups? mayEmbed (splitAtChar ':' cs)

/-- The text before and after the first pair of colons. -/
def cutAtPair : List Char → Option (List Char × List Char)
  | ':' :: ':' :: rest => some ([], rest)
  | c :: rest => (cutAtPair rest).map fun (before, after) => (c :: before, after)
  | [] => none

/-- The address of eight groups that a text writes; a pair of colons stands for groups of zero. -/
def eightGroups? (cs : List Char) : Option (List Nat) :=
  match cutAtPair cs with
  | none => do
    let groups ← groups? true cs
    if groups.length = 8 then some groups else none
  | some (before, after) => do
    let left ← groups? false before
    let right ← groups? true after
    if left.length + right.length < 8 then
      some (left ++ List.replicate (8 - left.length - right.length) 0 ++ right)
    else none

/-- How many zeros the groups begin with. -/
def zerosAtFront (groups : List Nat) : Nat := (groups.takeWhile (· = 0)).length

/-- The first of the longest runs of zeros, by its place and length. -/
def longestZeros (groups : List Nat) : Nat × Nat :=
  (List.range groups.length).foldl (fun best place =>
    let length := zerosAtFront (groups.drop place)
    if best.2 < length then (place, length) else best) (0, 0)

/-- Groups between colons. -/
def writeGroups (groups : List Nat) : String :=
  ":".intercalate (groups.map fun group => String.ofList (Text.hexNat group))

/-- The normal spelling of an address of eight groups. -/
def writeEightGroups (groups : List Nat) : String :=
  let (place, length) := longestZeros groups
  if length < 2 then writeGroups groups
  else writeGroups (groups.take place) ++ "::" ++ writeGroups (groups.drop (place + length))

/-! ## Hosts -/

/-- The characters that no host can have. -/
def forbiddenInHost (c : Char) : Bool :=
  c ∈ ['\x00', '\t', '\n', '\r', ' ', '#', '/', ':', '<', '>', '?', '@', '[', '\\', ']', '^', '|']

/-- The normal spelling of a host, for the schemes whose hosts are names of the net. -/
def specialHost? (cs : List Char) : Option String := do
  let decoded ← (Text.decodeUtf8 (percentDecode cs)).toOption
  let name ← Domain.toAscii? decoded.toList
  if name.isEmpty then none
  else if endsInNumber name then (fourNumbers? name).map writeFourNumbers
  else some (String.ofList name)

/-- The normal spelling of a host. -/
def host? (special : Bool) (cs : List Char) : Option String :=
  match cs with
  | '[' :: rest =>
    if rest.getLast? = some ']' then
      (eightGroups? rest.dropLast).map fun groups => "[" ++ writeEightGroups groups ++ "]"
    else none
  | cs =>
    if special then specialHost? cs
    else if cs.any forbiddenInHost then none
    else some (percentEncode isControl cs)

end Hostlink.Http.Url
