import Hostlink.Registry
import Hostlink.Storage.Path

/-!
# File trees

A tree has directories and files, without links.  A file is known by a number, and what it holds is
kept by that number: an open file can still be read after its entry has been taken away, and sees
what is written to it through other ways.

Every operation walks its path first.  A component that is missing, or that would have to be a
directory and is not, ends the walk.

The device under the tree takes the bytes of files in blocks.  It may fail to take a block, and has
then taken some part of it from the front.
-/

namespace Hostlink.Storage

/-- A place in the tree: the names from the innermost one up to the root. -/
abbrev Location := List Name

/-- What stands at a place. -/
inductive TreeEntry where
  | directory
  /-- The file with a number. -/
  | file (index : Nat)
  deriving DecidableEq, Repr

/-- How the device takes a block. -/
inductive Uptake where
  | whole
  /-- So many bytes at most, and then it fails. -/
  | part (limit : Nat) (fault : IoFault)
  deriving DecidableEq, Repr

namespace Uptake

/-- The bytes of a block that are taken. -/
def taken (u : Uptake) (block : Bytes) : Bytes :=
  match u with
  | .whole => block
  | .part limit _ => block.take limit

/-- The failure, if there is one. -/
def fault? : Uptake → Option IoFault
  | .whole => none
  | .part _ fault => some fault

end Uptake

/-- The places other than the root, what the files hold, and how the device takes the blocks to
come; what it is not said to fail at it takes as a whole. -/
structure Tree where
  entries : List (Location × TreeEntry)
  contents : Registry Bytes
  device : List Uptake
  deriving Repr

/-- Where a path ends. -/
inductive Spot where
  /-- At the root or at a directory that was gone through already. -/
  | passed (place : Location)
  /-- At an entry of a directory, which may be missing. -/
  | entry (directory : Location) (name : Name)
  deriving DecidableEq, Repr

namespace Tree

/-- Only the root. -/
def empty : Tree := ⟨[], .empty, []⟩

instance : Inhabited Tree := ⟨empty⟩

/-- What stands at a place. -/
def entry? (t : Tree) (place : Location) : Option TreeEntry :=
  match place with
  | [] => some .directory
  | place => (t.entries.find? (·.1 = place)).map (·.2)

/-- The bytes with others put over them from a position on; a gap is filled with zeros.  Where no
bytes are put nothing changes. -/
def overwrite (old : Bytes) (position : Nat) (data : Bytes) : Bytes :=
  if data.isEmpty then old
  else old.take position ++ List.replicate (position - old.length) 0 ++ data
    ++ old.drop (position + data.length)

/-- What a file holds. -/
def content (t : Tree) (index : Nat) : Bytes := (t.contents.get? index).getD []

/-- Changes what a file holds. -/
def setContent (t : Tree) (index : Nat) (data : Bytes) : Tree :=
  { t with contents := t.contents.modify index fun _ => data }

/-- How the device takes the next block. -/
def uptake (t : Tree) : Uptake := t.device.head?.getD .whole

/-- Puts the part of a block that the device takes where it belongs. -/
def putBlock (t : Tree) (index position : Nat) (block : Bytes) : Tree :=
  let taken := t.uptake.taken block
  { t.setContent index (overwrite (t.content index) position taken) with device := t.device.tail }

/-- Adds an entry at a free place. -/
def insert (t : Tree) (place : Location) (entry : TreeEntry) : Tree :=
  { t with entries := t.entries ++ [(place, entry)] }

/-- Takes the entry at a place away. -/
def erase (t : Tree) (place : Location) : Tree :=
  { t with entries := t.entries.filter (·.1 ≠ place) }

/-! ## Walking -/

/-- Fails unless a directory stands at a place. -/
def requireDirectory (t : Tree) (place : Location) : Except IoFault Unit :=
  match t.entry? place with
  | some .directory => .ok ()
  | some (.file _) => .error .notDirectory
  | none => .error .notFound

/-- Fails for a name that no entry can have. -/
def requireName (name : Name) : Except IoFault Unit :=
  if nameLimit < name.length then .error .nameTooLong else .ok ()

/-- The place that one component leads to from a directory. -/
def enter (t : Tree) (directory : Location) : Component → Except IoFault Location
  | .here => .ok directory
  | .up => .ok directory.tail
  | .named name => do
    requireName name
    if (t.entry? (name :: directory)).isSome then .ok (name :: directory) else .error .notFound

/-- The place that components lead to, the last one first. -/
def walk (t : Tree) (start : Location) : List Component → Except IoFault Location
  | [] => .ok start
  | component :: before => do
    let place ← t.walk start before
    t.requireDirectory place
    t.enter place component

/-- Where a path begins, for a program that works in the directory `base`. -/
def start (base : Location) (path : Path) : Location := if path.absolute then [] else base

/-- Where a path ends; the directory of the last entry has to be there. -/
def locate (t : Tree) (base : Location) (path : Path) : Except IoFault Spot := do
  match path.fault? with
  | some fault => .error fault
  | none =>
    match path.components with
    | .named name :: before =>
      let directory ← t.walk (start base path) before
      t.requireDirectory directory
      return .entry directory name
    | components =>
      let place ← t.walk (start base path) components
      return .passed place

/-- The place and the entry that a path leads to. -/
def resolve (t : Tree) (base : Location) (path : Path) :
    Except IoFault (Location × TreeEntry) := do
  match ← t.locate base path with
  | .passed place => return (place, .directory)
  | .entry directory name =>
    requireName name
    match t.entry? (name :: directory) with
    | none => .error .notFound
    | some .directory => return (name :: directory, .directory)
    | some (.file index) =>
      if path.trailing then .error .notDirectory else return (name :: directory, .file index)

/-! ## Operations -/

/-- What a path leads to. -/
def find (t : Tree) (base : Location) (path : Path) : Except IoFault TreeEntry :=
  (·.2) <$> t.resolve base path

/-- Whether a path leads to anything. -/
def exists? (t : Tree) (base : Location) (path : Path) : Except IoFault Bool :=
  match t.find base path with
  | .ok _ => .ok true
  | .error .notFound => .ok false
  | .error fault => .error fault

/-- Makes an empty file, or empties the one that is there; the result has its number. -/
def create (t : Tree) (base : Location) (path : Path) : Except IoFault (Nat × Tree) := do
  match ← t.locate base path with
  | .passed _ => .error .isDirectory
  | .entry directory name =>
    if path.trailing then .error .isDirectory
    requireName name
    match t.entry? (name :: directory) with
    | some .directory => .error .isDirectory
    | some (.file index) => return (index, t.setContent index [])
    | none =>
      let index := t.contents.next
      let t := { t with contents := t.contents.insert [] }
      return (index, t.insert (name :: directory) (.file index))

/-- Makes one directory. -/
def makeDirectory (t : Tree) (base : Location) (path : Path) : Except IoFault Tree := do
  match ← t.locate base path with
  | .passed _ => .error .alreadyExists
  | .entry directory name =>
    requireName name
    match t.entry? (name :: directory) with
    | some _ => .error .alreadyExists
    | none => return t.insert (name :: directory) .directory

/-- Whether a path leads to a directory. -/
def isDirectory (t : Tree) (base : Location) (path : Path) : Bool :=
  match t.find base path with
  | .ok .directory => true
  | _ => false

/-- A directory that is there already is as good as one just made. -/
def acceptDirectory (t : Tree) (base : Location) (path : Path) (fault : IoFault) :
    Except IoFault Unit :=
  if fault = .alreadyExists && t.isDirectory base path then .ok () else .error fault

/-- Makes the directory that the first path leads to.  The other paths lead to the directories above
it, which are made if they are missing.  What has been made stays when a later directory cannot be
made. -/
def makeDirectories (t : Tree) (base : Location) : List Path → Except IoFault Unit × Tree
  | [] => (.ok (), t)
  | path :: above =>
    match t.makeDirectory base path with
    | .ok t => (.ok (), t)
    | .error .notFound =>
      match t.makeDirectories base above with
      | (.error fault, t) => (.error fault, t)
      | (.ok _, t) =>
        match t.makeDirectory base path with
        | .ok t => (.ok (), t)
        | .error fault => (t.acceptDirectory base path fault, t)
    | .error fault => (t.acceptDirectory base path fault, t)

/-- Makes a file as `create` does, in directories that are made if need be. -/
def createWithParents (t : Tree) (base : Location) (path : Path) : Except IoFault Nat × Tree :=
  let (made, t) := t.makeDirectories base path.above
  match made with
  | .error fault => (.error fault, t)
  | .ok _ =>
    match t.create base path with
    | .ok (index, t) => (.ok index, t)
    | .error fault => (.error fault, t)

/-- Takes the entry of a file away. -/
def remove (t : Tree) (base : Location) (path : Path) : Except IoFault Tree := do
  match ← t.locate base path with
  | .passed _ => .error .isDirectory
  | .entry directory name =>
    requireName name
    match t.entry? (name :: directory) with
    | none => .error .notFound
    | some .directory => .error .isDirectory
    | some (.file _) =>
      if path.trailing then .error .notDirectory else return t.erase (name :: directory)

/-- The entries of a directory. -/
def children (t : Tree) (directory : Location) : List (Name × TreeEntry) :=
  t.entries.filterMap fun (place, entry) =>
    match place with
    | name :: above => if above = directory then some (name, entry) else none
    | [] => none

/-- The entries of the directory that a path leads to. -/
def list (t : Tree) (base : Location) (path : Path) :
    Except IoFault (List (Name × TreeEntry)) := do
  match ← t.resolve base path with
  | (place, .directory) => return t.children place
  | (_, .file _) => .error .notDirectory

/-- The length that directories report. -/
def directoryLength : Nat := 4096

/-- The length that an entry reports. -/
def length (t : Tree) : TreeEntry → Nat
  | .directory => directoryLength
  | .file index => (t.content index).length

end Tree
end Hostlink.Storage
