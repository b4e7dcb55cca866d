import Hostlink.Domain.MappingTable

/-!
# Mapping of domain names

Names that look alike to their users should lead to one place.  So capital letters, wide and narrow
forms and other variants of a character are replaced by its plain form, characters without ink are
left out, and some characters no name can have.
-/

namespace Hostlink.Domain

/-- How a character is treated. -/
inductive Treatment where
  | kept
  | ignored
  | refused
  | replaced (plain : List Char)
  deriving DecidableEq, Repr

/-- How a run of the table treats one of its characters. -/
def treatmentIn (run : Text.Run) (c : Char) : Treatment :=
  let place := c.toNat - run.start
  match run.label with
  | 'v' => .kept
  | 'i' => .ignored
  | 'a' => if place % 2 = 0 then .replaced [Char.ofNat (c.toNat + 1)] else .kept
  | 's' => .replaced [Char.ofNat (Text.readCode run.detail + place)]
  | 'm' => .replaced (Text.readCodes run.detail)
  | _ => .refused

/-- How a character is treated.  Of the ASCII characters the capital letters are replaced. -/
def treatment (c : Char) : Treatment :=
  if c.toNat < 0x80 then if c.isUpper then .replaced [c.toLower] else .kept
  else
    match mappingTable.run? c with
    | some run => treatmentIn run c
    | none => .refused

/-- The characters with each one treated; `none` if there is one that no name can have. -/
def mapped? : List Char → Option (List Char)
  | [] => some []
  | c :: rest => do
    let others ← mapped? rest
    match treatment c with
    | .kept => return c :: others
    | .ignored => return others
    | .refused => none
    | .replaced plain => return plain ++ others

end Hostlink.Domain
