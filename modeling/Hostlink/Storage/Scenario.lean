import Hostlink.Storage.Session
import Hostlink.Text.Utf8

/-!
# Scenarios on files

Lists of steps over paths and named streams, performed one after the other on a fresh session.  When
a stream loses its name it is dropped, and in the end all streams that still have one are.
-/

namespace Hostlink.Storage.Scenario

/-- One step. -/
inductive Step where
  | writeWhole (path : String) (data : Bytes)
  | readWhole (path : String)
  | exists (path : String)
  | delete (path : String)
  | list (path : String)
  | makeDirectory (path : String)
  /-- Makes a file of one byte with a name that need not be text. -/
  | makeNamed (name : Bytes)
  | openStream (path stream : String)
  | createStream (path stream : String)
  /-- Makes a second stream over the handle of a stream. -/
  | share (stream source : String)
  | read (stream : String)
  | write (stream : String) (data : Bytes)
  | flush (stream : String)
  | length (stream : String)
  | dispose (stream : String)
  /-- Disposes of a stream while somebody else holds the slot of its handle. -/
  | disposeBusy (stream : String)
  | drop (stream : String)
  /-- Drops a stream while somebody else holds the slot of its handle. -/
  | dropBusy (stream : String)
  | closeHandle (stream : String)
  | isOpen (stream : String)
  | handlePath (stream : String)
  | unwrap (stream : String)
  /-- Creates a file through the interface, writes to it and asks for its length. -/
  | createAndMeasure (path : String) (data : Bytes)
  | unwrapFileSystem
  deriving DecidableEq, Repr

/-- An entry of a directory, as it was found. -/
structure Listed where
  name : String
  path : String
  isDirectory : Bool
  length : Nat
  /-- Whether the adapter gives back the native object that it was made for. -/
  unwraps : Bool
  deriving DecidableEq, Repr

/-- The value of a step. -/
inductive Value where
  | nothing
  | bool (value : Bool)
  | nat (value : Nat)
  | text (value : String)
  | bytes (value : Bytes)
  | listing (entries : List Listed)
  | stillOpen (value : Bool)
  deriving DecidableEq, Repr

/-- How a step ended. -/
inductive Answer where
  | ok (value : Value)
  | failed (error : HostError)
  | unknown (stream : String)
  deriving DecidableEq, Repr

/-- The sentence for a stream that does not exist. -/
def unknownMessage (stream : String) : String := s!"unknown stream {stream}"

/-- The session and the names of the streams. -/
structure State where
  session : Session
  names : List (String × StreamId)

/-- A step in progress. -/
abbrev ScenarioM := StateM State

/-- Performs an operation of the session. -/
def lift {α : Type} (operation : SessionM α) : ScenarioM α := fun s =>
  let (result, session) := operation s.session
  (result, { s with session })

/-- The answer to an operation of the session. -/
def answer {α : Type} (value : α → Value) (operation : SessionM (Except HostError α)) :
    ScenarioM Answer := do
  let result ← lift operation
  match result with
  | .ok a => return .ok (value a)
  | .error e => return .failed e

/-- Looks up a stream and goes on with it. -/
def withStream (name : String) (next : StreamId → ScenarioM Answer) : ScenarioM Answer := do
  let s ← get
  match s.names.find? (·.1 = name) with
  | some (_, id) => next id
  | none => return .unknown name

/-- Takes a name away from its stream. -/
def forget (name : String) : ScenarioM Unit :=
  modify fun s => { s with names := s.names.filter (·.1 ≠ name) }

/-- Names a new stream; the one that had the name before is dropped. -/
def nameStream (name : String) (opened : SessionM (Except HostError StreamId)) :
    ScenarioM Answer := do
  let result ← lift opened
  match result with
  | .error e => return .failed e
  | .ok id =>
    let s ← get
    let before := s.names.find? (·.1 = name)
    forget name
    modify fun s => { s with names := (name, id) :: s.names }
    match before with
    | none => return .ok .nothing
    | some (_, old) =>
      lift (Session.drop old)
      return .ok .nothing

/-! ## Directories -/

/-- The type of the native objects that are entries of a directory. -/
def entryTypeName : String := "tokio::fs::read_dir::DirEntry"

/-- The path of an entry. -/
def childPath (directory name : String) : String :=
  if directory.endsWith "/" then directory ++ name else directory ++ "/" ++ name

/-- An entry as it was found; it is seen through a borrowed wrapper over the native entry. -/
def Listed.ofEntry (tree : Tree) (directory : String) (index : Nat) (name : Name)
    (entry : TreeEntry) : Listed :=
  let shown := Text.decodeUtf8Lossy name
  let native : Native := ⟨entryTypeName, index⟩
  let unwrapped := Conversion.rawNative entryTypeName (Wrapper.borrowed native).adapter
  { name := shown
    path := childPath directory shown
    isDirectory := entry = .directory
    length := tree.length entry
    unwraps := match unwrapped with | .ok found => found = native | .error _ => false }

/-- The entries of a directory by name.  Their wrappers are dropped in the end. -/
def listing (path : String) : SessionM (Except HostError (List Listed)) := do
  let result ← Session.list path
  match result with
  | .error e => return .error e
  | .ok entries =>
    let s ← get
    let listed := entries.zipIdx.map fun ((name, entry), index) =>
      Listed.ofEntry s.tree path index name entry
    for index in List.range entries.length do
      Session.report ((Wrapper.borrowed ⟨entryTypeName, index⟩).disposalNotice 0)
    return .ok (listed.mergeSort fun a b => a.name ≤ b.name)

/-- Makes a directory and those that are missing on the way. -/
def makeDirectories (path : String) : SessionM (Except HostError Unit) := do
  let s ← get
  let (result, tree) := s.tree.makeDirectories s.directory (Path.ofText path).upward
  set { s with tree }
  return result.mapError .io

/-- What the files made by name alone hold. -/
def smallContent : Bytes := "x".toUTF8.toList

/-- Makes a file of one byte in the working directory. -/
def makeNamed (name : Bytes) : SessionM (Except HostError Unit) := do
  let s ← get
  match s.tree.create s.directory (.ofBytes name) with
  | .error fault => return .error (.io fault)
  | .ok (index, tree) =>
    set { s with tree := tree.setContent index smallContent }
    return .ok ()

/-! ## Performing steps -/

/-- Creates a file, writes to it and asks for its length; the stream is dropped in the end. -/
def createAndMeasure (path : String) (data : Bytes) : SessionM (Except HostError Nat) := do
  let created ← Session.createStream path
  match created with
  | .error e => return .error e
  | .ok id =>
    let written ← (Session.fileStream id).writeAndFlush data
    let length ← Session.length id
    Session.drop id
    return written >>= fun _ => length

/-- Performs an operation on a stream while somebody else holds the slot of its handle. -/
def whileBusy {α : Type} (id : StreamId) (operation : SessionM α) : SessionM α := do
  Session.setBusy id true
  let result ← operation
  Session.setBusy id false
  return result

/-- Whether the handle of a stream is open. -/
def isOpen (id : StreamId) : SessionM Bool := do
  let s ← get
  return ((s.handleOf? id).map (·.isOpen)).getD false

/-- Whether unwrapping a stream gives the handle that it was made over. -/
def unwrap (id : StreamId) : SessionM (Except HostError Bool) := do
  let s ← get
  match s.stream? id with
  | none => return .ok false
  | some wrapper =>
    return (Conversion.rawNative FileHandle.typeName wrapper.adapter).map
      fun native => native = wrapper.native

/-- What a step does. -/
def perform : Step → ScenarioM Answer
  | .writeWhole path data => answer (fun _ => .nothing) (Session.fileSystem.writeWhole path data)
  | .readWhole path => answer .bytes (Session.fileSystem.readWhole path)
  | .exists path => answer .bool (Session.exists? path)
  | .delete path => answer (fun _ => .nothing) (Session.delete path)
  | .list path => answer .listing (listing path)
  | .makeDirectory path => answer (fun _ => .nothing) (makeDirectories path)
  | .makeNamed name => answer (fun _ => .nothing) (makeNamed name)
  | .openStream path stream => nameStream stream (Session.openStream path)
  | .createStream path stream => nameStream stream (Session.createStream path)
  | .share stream source => withStream source fun id => nameStream stream (.ok <$> Session.share id)
  | .read stream => withStream stream fun id => answer .bytes (Session.readToEnd id)
  | .write stream data =>
    withStream stream fun id => answer (fun _ => .nothing) (Session.writeAll id data)
  | .flush stream => withStream stream fun id => answer (fun _ => .nothing) (Session.flush id)
  | .length stream => withStream stream fun id => answer .nat (Session.length id)
  | .dispose stream => withStream stream fun id => answer (fun _ => .nothing) (Session.dispose id)
  | .disposeBusy stream =>
    withStream stream fun id => answer (fun _ => .nothing) (whileBusy id (Session.dispose id))
  | .drop stream =>
    withStream stream fun id => do
      forget stream
      lift (Session.drop id)
      return .ok .nothing
  | .dropBusy stream =>
    withStream stream fun id => do
      forget stream
      lift (whileBusy id (Session.drop id))
      let stillOpen ← lift (isOpen id)
      return .ok (.stillOpen stillOpen)
  | .closeHandle stream =>
    withStream stream fun id => answer (fun _ => .nothing) (Session.closeHandle id)
  | .isOpen stream => withStream stream fun id => answer .bool (.ok <$> isOpen id)
  | .handlePath stream =>
    withStream stream fun id => do
      let s ← get
      return .ok (.text (((s.session.handleOf? id).map (·.path)).getD ""))
  | .unwrap stream => withStream stream fun id => answer .bool (unwrap id)
  | .createAndMeasure path data => answer .nat (createAndMeasure path data)
  | .unwrapFileSystem =>
    answer (fun _ => .bool true)
      (return Conversion.rawNative FileHandle.typeName Session.adapter)

/-- Performs steps in order. -/
def runSteps (s : State) : List Step → List Answer × State
  | [] => ([], s)
  | step :: rest =>
    let (result, s) := perform step s
    let (results, s) := runSteps s rest
    (result :: results, s)

/-- Drops the streams that still have names, in the order of the names. -/
def dropNamed : ScenarioM Unit := do
  let s ← get
  for (_, id) in s.names.mergeSort fun a b => a.1 ≤ b.1 do
    lift (Session.drop id)

/-- The tree with nothing but the working directory, which is directly below the root. -/
def freshTree (directory : Name) : Tree := Tree.empty.insert [directory] .directory

/-- Performs a scenario in a working directory of a given name.  The streams that have names at its
end are dropped then; the result also has the log events that it caused. -/
def run (directory : Name) (steps : List Step) : List Answer × List Log.Event :=
  let (answers, s) := runSteps ⟨⟨freshTree directory, [directory], .empty, .empty, []⟩, []⟩ steps
  let (_, s) := dropNamed s
  (answers, s.session.notices.reverse)

end Hostlink.Storage.Scenario
