import Hostlink.Conversion
import Hostlink.Storage.FileSystem
import Hostlink.Storage.Handle

/-!
# The desktop's file system

A session has a tree, the directory in which the program works, the handles and streams made so
far, and the log events reported so far.  A stream is an owned wrapper over a handle.  Streams can
share a handle: each is disposed of by itself, and the first of them that closes the handle closes
it for all.
-/

namespace Hostlink.Storage

/-- A stream. -/
structure StreamId where
  index : Nat
  deriving DecidableEq, Repr

/-- All that the operations on files read and change. -/
structure Session where
  tree : Tree
  /-- The directory where relative paths begin. -/
  directory : Location
  handles : Registry FileHandle
  /-- The wrappers of the streams; the identity of the native object is the handle's number. -/
  streams : Registry Wrapper
  /-- The log events reported so far, the latest first. -/
  notices : List Log.Event

/-- An operation of a session. -/
abbrev SessionM := StateM Session

/-! ## Log events -/

/-- The target of the log events about files. -/
def fileTarget : String := "bridge_desktop::filesystem"

/-- A path as the log shows it. -/
def pathField (path : String) : Log.Field := ⟨"path", .shown (Text.quote path)⟩

/-- A log event about a path. -/
def fileNotice (message path : String) (more : List Log.Field) : Log.Event :=
  .notice .debug fileTarget message (pathField path :: more)

namespace Session

/-- Reports a log event. -/
def report (event : Log.Event) : SessionM Unit :=
  modify fun s => { s with notices := event :: s.notices }

/-! ## Handles and streams -/

/-- The wrapper that a stream is. -/
def stream? (s : Session) (id : StreamId) : Option Wrapper := s.streams.get? id.index

/-- The handle of a stream. -/
def handleOf? (s : Session) (id : StreamId) : Option FileHandle := do
  let wrapper ← s.stream? id
  s.handles.get? wrapper.native.identity

/-- Changes the wrapper that a stream is. -/
def modifyStream (id : StreamId) (f : Wrapper → Wrapper) : SessionM Unit :=
  modify fun s => { s with streams := s.streams.modify id.index f }

/-- Changes the handle of a stream. -/
def modifyHandle (id : StreamId) (f : FileHandle → FileHandle) : SessionM Unit :=
  modify fun s =>
    match s.stream? id with
    | some wrapper => { s with handles := s.handles.modify wrapper.native.identity f }
    | none => s

/-- Puts the open file of a stream back after an operation on it. -/
def putFile (id : StreamId) (file : OpenFile) : SessionM Unit :=
  modifyHandle id fun h => { h with slot := some file }

/-- Makes a stream over a handle. -/
def addStream (native : Native) : SessionM StreamId := do
  let s ← get
  set { s with streams := s.streams.insert (.owned native) }
  return ⟨s.streams.next⟩

/-- Makes a handle and a stream over it. -/
def addHandle (handle : FileHandle) : SessionM StreamId := do
  let s ← get
  set { s with handles := s.handles.insert handle }
  addStream ⟨FileHandle.typeName, s.handles.next⟩

/-- Makes a second stream over the handle of a stream. -/
def share (id : StreamId) : SessionM StreamId := do
  let s ← get
  match s.stream? id with
  | some wrapper => addStream wrapper.native
  | none => return id

/-! ## Operations on streams

An operation on the file of a stream is refused once the stream has been disposed of.  Otherwise it
waits for the slot of the handle, and is performed while it has the slot. -/

/-- The type that a stream over a closed handle is reported under. -/
def streamTypeName : String := "TokioFileStream"

/-- Fails once a stream has been disposed of. -/
def ensureLive (id : StreamId) : SessionM (Except HostError Unit) := do
  let s ← get
  match s.stream? id with
  | some wrapper => return wrapper.ensureLive
  | none => return .error (.objectDisposed streamTypeName)

/-- Performs an operation unless a stream has been disposed of. -/
def ifLive {α : Type} (id : StreamId) (operation : SessionM (Except HostError α)) :
    SessionM (Except HostError α) := do
  let live ← ensureLive id
  match live with
  | .error e => return .error e
  | .ok _ => operation

/-- Performs an operation on the open file of a stream, once it is its turn to have the slot.  It
fails if the handle has been closed. -/
def inSlot {α : Type} (id : StreamId)
    (operate : FileHandle → OpenFile → SessionM (Except HostError α)) :
    SessionM (Except HostError α) := do
  let s ← get
  match s.handleOf? id with
  | none => return .error (.objectDisposed streamTypeName)
  | some handle =>
    match handle.slot with
    | none => return .error (.objectDisposed streamTypeName)
    | some file => operate handle file

/-- Reads from the position to the end of the open file. -/
def readInSlot (id : StreamId) : SessionM (Except HostError Bytes) :=
  inSlot id fun handle file => do
    let s ← get
    let (result, file) := file.readToEnd s.tree
    putFile id file
    match result with
    | .error fault => return .error (.io fault)
    | .ok data =>
      report (fileNotice "Read file" handle.path [⟨"size", .int data.length⟩])
      return .ok data

/-- Writes at the position of the open file. -/
def writeInSlot (id : StreamId) (data : Bytes) : SessionM (Except HostError Unit) :=
  inSlot id fun handle file => do
    let s ← get
    let (result, file, tree) := file.writeAll s.tree data
    set { s with tree }
    putFile id file
    match result with
    | .error fault => return .error (.io fault)
    | .ok _ =>
      report (fileNotice "Wrote file" handle.path [⟨"size", .int data.length⟩])
      return .ok ()

/-- Waits for what has been written to the open file. -/
def flushInSlot (id : StreamId) : SessionM (Except HostError Unit) :=
  inSlot id fun _ file => do
    let (result, file) := file.flush
    putFile id file
    return result.mapError .io

/-- The length of the open file. -/
def lengthInSlot (id : StreamId) : SessionM (Except HostError Nat) :=
  inSlot id fun _ file => do
    let s ← get
    return .ok (file.length s.tree)

/-- Reads from the position to the end of the file. -/
def readToEnd (id : StreamId) : SessionM (Except HostError Bytes) := ifLive id (readInSlot id)

/-- Writes at the position of the file. -/
def writeAll (id : StreamId) (data : Bytes) : SessionM (Except HostError Unit) :=
  ifLive id (writeInSlot id data)

/-- Waits for what has been written. -/
def flush (id : StreamId) : SessionM (Except HostError Unit) := ifLive id (flushInSlot id)

/-- The length of the file. -/
def length (id : StreamId) : SessionM (Except HostError Nat) := ifLive id (lengthInSlot id)

/-- Closes the handle of a stream. -/
def closeHandle (id : StreamId) : SessionM (Except HostError Unit) := do
  let s ← get
  match s.handleOf? id with
  | none => return .ok ()
  | some handle =>
    match handle.close with
    | .error e => return .error e
    | .ok closed =>
      modifyHandle id fun _ => closed
      if handle.isOpen then report (fileNotice "Closed file" handle.path [])
      return .ok ()

/-- Marks a stream as disposed of, the first time.  No callbacks are registered through streams, so
none are released. -/
def markDisposed (id : StreamId) : SessionM Unit := do
  let s ← get
  match s.stream? id with
  | none => return ()
  | some wrapper =>
    if !wrapper.disposed then
      modifyStream id fun w => { w with disposed := true }
      report (wrapper.disposalNotice 0)

/-- Closes the handle of a stream unless this stream has closed it before. -/
def closeNative (id : StreamId) : SessionM (Except HostError Unit) := do
  let s ← get
  match s.stream? id with
  | none => return .ok ()
  | some wrapper =>
    if wrapper.needsClose then
      let result ← closeHandle id
      match result with
      | .error e => return .error e
      | .ok _ =>
        modifyStream id fun w => { w with closed := true }
        return .ok ()
    else return .ok ()

/-- Disposes of a stream. -/
def dispose (id : StreamId) : SessionM (Except HostError Unit) := do
  markDisposed id
  closeNative id

/-- Disposes of a stream for the last time; a failure is only reported. -/
def drop (id : StreamId) : SessionM Unit := do
  let s ← get
  let result ← dispose id
  match result, s.stream? id with
  | .error e, some wrapper => report (wrapper.dropNotice e)
  | _, _ => return ()

/-- Lets somebody else hold the slot of a stream's handle, or gives it free. -/
def setBusy (id : StreamId) (busy : Bool) : SessionM Unit :=
  modifyHandle id fun h => { h with busy }

/-! ## Operations on paths -/

/-- Opens a file or directory for reading. -/
def openStream (path : String) : SessionM (Except HostError StreamId) := do
  let s ← get
  match s.tree.find s.directory (.ofText path) with
  | .error fault => return .error (.io fault)
  | .ok entry =>
    report (fileNotice "Opened file for reading" path [])
    .ok <$> addHandle (.make path (.make .reading entry))

/-- Makes a file, or empties the one that is there, and opens it for writing.  Directories that are
missing on the way are made. -/
def createStream (path : String) : SessionM (Except HostError StreamId) := do
  let s ← get
  let (result, tree) := s.tree.createWithParents s.directory (.ofText path)
  set { s with tree }
  match result with
  | .error fault => return .error (.io fault)
  | .ok index =>
    report (fileNotice "Created file" path [])
    .ok <$> addHandle (.make path (.make .writing (.file index)))

/-- Whether a path leads to anything. -/
def exists? (path : String) : SessionM (Except HostError Bool) := do
  let s ← get
  return (s.tree.exists? s.directory (.ofText path)).mapError .io

/-- Takes the entry of a file away. -/
def delete (path : String) : SessionM (Except HostError Unit) := do
  let s ← get
  match s.tree.remove s.directory (.ofText path) with
  | .error fault => return .error (.io fault)
  | .ok tree =>
    set { s with tree }
    report (fileNotice "Deleted file" path [])
    return .ok ()

/-- The entries of a directory, in the order in which they were made. -/
def list (path : String) : SessionM (Except HostError (List (Name × TreeEntry))) := do
  let s ← get
  match s.tree.list s.directory (.ofText path) with
  | .error fault => return .error (.io fault)
  | .ok entries =>
    report (fileNotice "Listed directory" path [⟨"count", .int entries.length⟩])
    return .ok entries

/-! ## The interface -/

/-- A stream as an interface value. -/
def fileStream (id : StreamId) : FileStream SessionM where
  readToEnd := readToEnd id
  writeAll := writeAll id
  flush := flush id
  dispose := dispose id

/-- The file system of the desktop. -/
def fileSystem : FileSystem SessionM where
  openRead path := do
    let opened ← openStream path
    return opened.map fileStream
  create path := do
    let created ← createStream path
    return created.map fileStream

/-- The file system stands for no native object. -/
def adapter : Adapter := ⟨none⟩

end Session
end Hostlink.Storage
