import Hostlink.Storage.Tree

/-!
# Open files

An open file reads and writes at a position of its own.  Writing is write-behind: a write is carried
out block by block, and the failure of a block is kept and reported by the next block or flush.
Closing forgets it.

A handle keeps an open file in a slot, which closing empties for ever.  While somebody else holds
the slot the handle is busy and cannot be closed; other operations wait for their turn.
-/

namespace Hostlink.Storage

/-- What a file was opened for. -/
inductive Mode where
  | reading
  | writing
  deriving DecidableEq, Repr

/-- An open file or directory. -/
structure OpenFile where
  entry : TreeEntry
  mode : Mode
  position : Nat
  /-- The failure of an earlier write that has not been reported yet. -/
  pending : Option IoFault
  deriving DecidableEq, Repr

namespace OpenFile

/-- An entry just opened. -/
def make (mode : Mode) (entry : TreeEntry) : OpenFile := ⟨entry, mode, 0, none⟩

/-- Of a failure that a read has come across only its category is still known. -/
def blurPending (f : OpenFile) : OpenFile :=
  { f with pending := f.pending.map (·.blurred) }

/-- Reads from the position to the end. -/
def readToEnd (f : OpenFile) (tree : Tree) : Except IoFault Bytes × OpenFile :=
  let f := f.blurPending
  match f.mode, f.entry with
  | .writing, _ => (.error .badDescriptor, f)
  | .reading, .directory => (.error .isDirectory, f)
  | .reading, .file index =>
    let data := (tree.content index).drop f.position
    (.ok data, { f with position := f.position + data.length })

/-- The most bytes that are written in one block. -/
def blockSize : Nat := 2097152

/-- Carries out the write of one block; a failure is kept. -/
def writeBlock (f : OpenFile) (tree : Tree) (block : Bytes) : OpenFile × Tree :=
  match f.mode, f.entry with
  | .writing, .file index =>
    let taken := tree.uptake.taken block
    ({ f with position := f.position + taken.length, pending := tree.uptake.fault? },
      tree.putBlock index f.position block)
  | _, _ => ({ f with pending := some .badDescriptor }, tree)

/-- Writes at the position, block by block.  The failure of an earlier block comes first, and then
nothing more is written. -/
def writeAll (f : OpenFile) (tree : Tree) (data : Bytes) :
    Except IoFault Unit × OpenFile × Tree :=
  if _ : data = [] then (.ok (), f, tree)
  else
    match f.pending with
    | some fault => (.error fault, { f with pending := none }, tree)
    | none =>
      let (f, tree) := f.writeBlock tree (data.take blockSize)
      f.writeAll tree (data.drop blockSize)
termination_by data.length
decreasing_by
  have : 0 < data.length := List.length_pos_iff.2 ‹data ≠ []›
  simp only [List.length_drop, blockSize]
  omega

/-- Reports the failure of an earlier write. -/
def flush (f : OpenFile) : Except IoFault Unit × OpenFile :=
  match f.pending with
  | some fault => (.error fault, { f with pending := none })
  | none => (.ok (), f)

/-- The length of the file. -/
def length (f : OpenFile) (tree : Tree) : Nat := tree.length f.entry

end OpenFile

/-- The native object of a stream. -/
structure FileHandle where
  /-- The path as it was given. -/
  path : String
  /-- The open file, until it is closed. -/
  slot : Option OpenFile
  /-- Whether somebody else holds the slot. -/
  busy : Bool
  deriving DecidableEq, Repr

namespace FileHandle

/-- The type of the native objects of streams. -/
def typeName : String := "bridge_desktop::filesystem::FileHandle"

/-- A handle just opened. -/
def make (path : String) (file : OpenFile) : FileHandle := ⟨path, some file, false⟩

/-- Whether the file is still open. -/
def isOpen (h : FileHandle) : Bool := h.slot.isSome

/-- The failure to close a handle that is busy. -/
def busyError (h : FileHandle) : HostError :=
  .operationFailed s!"File is busy and cannot be closed: {h.path}"

/-- Empties the slot; a handle that is closed already stays so. -/
def close (h : FileHandle) : Except HostError FileHandle :=
  if h.busy then .error h.busyError else .ok { h with slot := none }

end FileHandle
end Hostlink.Storage
