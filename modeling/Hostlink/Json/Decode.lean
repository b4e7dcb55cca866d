import Hostlink.Json.Value

/-!
# Decoding JSON texts of a known shape

Readers for a few fixed types.  They look at the tree of a text, so that a part which the type does
not mention is never interpreted, while every member of an object has to have the right type, also
one that a later member with the same key replaces.
-/

namespace Hostlink.Json

/-- The integer of a tree that writes one. -/
def Tree.int? : Tree → Option Int
  | .number text =>
    match Number.ofText? text with
    | some (.int i) => some i
    | _ => none
  | _ => none

/-- The text of a tree that writes a string. -/
def Tree.text? : Tree → Option String
  | .string parts => textOf? parts
  | _ => none

/-- A number that fits a byte. -/
def Tree.byte? (tree : Tree) : Option Nat := do
  let i ← tree.int?
  if 0 ≤ i ∧ i ≤ 255 then some i.toNat else none

/-- A list of strings. -/
def Tree.texts? : Tree → Option (List String)
  | .array items => items.mapM Tree.text?
  | _ => none

/-- A signed 64-bit integer. -/
def Tree.signed? (tree : Tree) : Option Int := do
  let i ← tree.int?
  if Int.bmod i (Nat.pow 2 64) = i then some i else none

/-- An object all of whose members are of one type, sorted by key; of equal keys the last one
counts. -/
def Tree.map? {α : Type} (decode : Tree → Option α) : Tree → Option (List (String × α))
  | .object members => do
    let members ← members.mapM fun (key, value) => do
      let key ← textOf? key
      let value ← decode value
      return (key, value)
    return sortMembers members
  | _ => none

end Hostlink.Json
