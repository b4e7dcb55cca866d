import Hostlink.Proofs.Registry
import Hostlink.Storage.Session

/-!
# Calls on streams, one by one

What each operation of a session does to it, as an equation.  The four calls that work on the open
file of a stream are one family: a call is refused once its stream has been disposed of, and when it
has the slot of the handle it is carried out on the file in there, or is refused as well if the slot
is empty.
-/

namespace Hostlink.Storage

section Steps

variable {α β : Type} (s : Session)

@[simp] theorem SessionM.pure_apply (a : α) : (pure a : SessionM α) s = (a, s) := rfl

@[simp] theorem SessionM.bind_apply (x : SessionM α) (next : α → SessionM β) :
    (x >>= next) s = next (x s).1 (x s).2 := rfl

@[simp] theorem SessionM.map_apply (f : α → β) (x : SessionM α) :
    (f <$> x) s = (f (x s).1, (x s).2) := rfl

@[simp] theorem SessionM.get_apply : (get : SessionM Session) s = (s, s) := rfl

@[simp] theorem SessionM.set_apply (s' : Session) : (set s' : SessionM PUnit) s = ((), s') := rfl

@[simp] theorem SessionM.modify_apply (f : Session → Session) :
    (modify f : SessionM PUnit) s = ((), f s) := rfl

end Steps

/-! ## The family of calls -/

/-- A call that works on the open file of a stream. -/
inductive Call where
  | read
  | write (data : Bytes)
  | flush
  | length
  deriving DecidableEq, Repr

/-- What a call returns. -/
inductive Reply where
  | bytes (data : Bytes)
  | done
  | size (length : Nat)
  deriving DecidableEq, Repr

namespace Call

/-- What a call does to an open file and the tree. -/
def onFile (c : Call) (f : OpenFile) (t : Tree) : Except IoFault Reply × OpenFile × Tree :=
  match c with
  | .read => ((f.readToEnd t).1.map Reply.bytes, (f.readToEnd t).2, t)
  | .write data => ((f.writeAll t data).1.map fun _ => Reply.done, (f.writeAll t data).2)
  | .flush => (f.flush.1.map fun _ => Reply.done, f.flush.2, t)
  | .length => (.ok (.size (f.length t)), f, t)

/-- The log events about a call, by how it went. -/
def notices (c : Call) (path : String) (result : Except IoFault Reply) : List Log.Event :=
  match c, result with
  | .read, .ok (.bytes data) => [fileNotice "Read file" path [⟨"size", .int data.length⟩]]
  | .write data, .ok _ => [fileNotice "Wrote file" path [⟨"size", .int data.length⟩]]
  | _, _ => []

/-- A call from start to end. -/
def perform (c : Call) (id : StreamId) : SessionM (Except HostError Reply) :=
  match c with
  | .read => (·.map Reply.bytes) <$> Session.readToEnd id
  | .write data => (·.map fun _ => Reply.done) <$> Session.writeAll id data
  | .flush => (·.map fun _ => Reply.done) <$> Session.flush id
  | .length => (·.map Reply.size) <$> Session.length id

/-- The part of a call that it does while it has the slot. -/
def inSlot (c : Call) (id : StreamId) : SessionM (Except HostError Reply) :=
  match c with
  | .read => (·.map Reply.bytes) <$> Session.readInSlot id
  | .write data => (·.map fun _ => Reply.done) <$> Session.writeInSlot id data
  | .flush => (·.map fun _ => Reply.done) <$> Session.flushInSlot id
  | .length => (·.map Reply.size) <$> Session.lengthInSlot id

end Call

/-! ## What operations change -/

namespace Session

/-- The session with another slot in a handle. -/
def putSlot (s : Session) (index : Nat) (slot : Option OpenFile) : Session :=
  { s with handles := s.handles.modify index ({ · with slot }) }

/-- The session after more log events, the latest first. -/
def noticing (s : Session) (notices : List Log.Event) : Session :=
  { s with notices := notices ++ s.notices }

/-- The session after a call on an open file. -/
def after (s : Session) (c : Call) (index : Nat) (path : String) (file : OpenFile) : Session :=
  let (result, file, tree) := c.onFile file s.tree
  ({ s with tree }.putSlot index (some file)).noticing (c.notices path result)

/-- The session in which a stream has been marked as disposed of. -/
def marking (s : Session) (id : StreamId) (wrapper : Wrapper) : Session :=
  { s with streams := s.streams.modify id.index ({ · with disposed := true }) }.noticing
    wrapper.endNotices

/-- The session in which a stream has closed its handle. -/
def closing (s : Session) (id : StreamId) (index : Nat) (handle : FileHandle) : Session :=
  ({ s with streams := s.streams.modify id.index ({ · with closed := true }) }.putSlot
    index none).noticing (if handle.isOpen then [fileNotice "Closed file" handle.path []] else [])

/-- The session with a new handle and a stream over it. -/
def adding (s : Session) (path : String) (file : OpenFile) : Session :=
  { s with
    handles := s.handles.insert (.make path file)
    streams := s.streams.insert (.owned ⟨FileHandle.typeName, s.handles.next⟩) }

end Session

variable {s : Session} {id : StreamId} {wrapper : Wrapper} {handle : FileHandle} {file : OpenFile}

/-! ## Calls -/

/-- The handle of a stream is the one that its wrapper holds. -/
theorem Session.handleOf?_eq (hw : s.stream? id = some wrapper) :
    s.handleOf? id = s.handles.get? wrapper.native.identity := by
  simp [handleOf?, hw]

theorem Session.putFile_apply (hw : s.stream? id = some wrapper) (file : OpenFile) :
    putFile id file s = ((), s.putSlot wrapper.native.identity (some file)) := by
  simp [putFile, modifyHandle, putSlot, hw]

/-- Putting back what is in a slot changes nothing. -/
theorem Session.putSlot_eq_self {index : Nat} (hh : s.handles.get? index = some handle) :
    s.putSlot index handle.slot = s := by
  have kept : s.handles.modify index ({ · with slot := handle.slot }) = s.handles :=
    Registry.modify_eq_self_of_some hh rfl
  rw [putSlot, kept]

/-- An operation on the open file gets what is in the slot. -/
theorem Session.inSlot_of_open {α : Type} (hh : s.handleOf? id = some handle)
    (hs : handle.slot = some file)
    (operate : FileHandle → OpenFile → SessionM (Except HostError α)) :
    Session.inSlot id operate s = operate handle file s := by
  simp [Session.inSlot, hh, hs]

/-- A call on a stream that has been disposed of is refused; any other goes on to the slot. -/
theorem Call.perform_eq (c : Call) (hw : s.stream? id = some wrapper) :
    c.perform id s = if wrapper.disposed then
      (.error (.objectDisposed wrapper.native.typeName), s) else c.inSlot id s := by
  cases c <;> cases hd : wrapper.disposed <;>
    simp [perform, inSlot, Session.readToEnd, Session.writeAll, Session.flush, Session.length,
      Session.ifLive, Session.ensureLive, Wrapper.ensureLive, hw, hd, Except.map]

/-- Once the handle has been closed a call is refused. -/
theorem Call.inSlot_of_closed (c : Call) (hh : s.handleOf? id = some handle)
    (closed : handle.slot = none) :
    c.inSlot id s = (.error (.objectDisposed Session.streamTypeName), s) := by
  cases c <;>
    simp [inSlot, Session.readInSlot, Session.writeInSlot, Session.flushInSlot,
      Session.lengthInSlot, Session.inSlot, hh, closed, Except.map]

/-- A call is carried out on the open file. -/
theorem Call.inSlot_of_open (c : Call) (hw : s.stream? id = some wrapper)
    (hh : s.handles.get? wrapper.native.identity = some handle) (hs : handle.slot = some file) :
    c.inSlot id s = ((c.onFile file s.tree).1.mapError .io,
      s.after c wrapper.native.identity handle.path file) := by
  have handled : s.handleOf? id = some handle := by rw [Session.handleOf?_eq hw, hh]
  have stream : ∀ tree, ({ s with tree } : Session).stream? id = some wrapper := fun _ => hw
  cases c with
  | read =>
    rw [inSlot, SessionM.map_apply, Session.readInSlot, Session.inSlot_of_open handled hs]
    cases h : (file.readToEnd s.tree).1 <;>
      simp [Session.putFile_apply hw, h, onFile, Session.after, Session.putSlot, Session.noticing,
        Session.report, notices, Except.map, Except.mapError]
  | write data =>
    rw [inSlot, SessionM.map_apply, Session.writeInSlot, Session.inSlot_of_open handled hs]
    cases h : (file.writeAll s.tree data).1 <;>
      simp [Session.putFile_apply (stream _), h, onFile, Session.after, Session.putSlot,
        Session.noticing, Session.report, notices, Except.map, Except.mapError]
  | flush =>
    rw [inSlot, SessionM.map_apply, Session.flushInSlot, Session.inSlot_of_open handled hs]
    cases h : file.flush.1 <;>
      simp [Session.putFile_apply hw, h, onFile, Session.after, Session.putSlot, Session.noticing,
        notices, Except.map, Except.mapError]
  | length =>
    have same : s.putSlot wrapper.native.identity (some file) = s := by
      rw [← hs, Session.putSlot_eq_self hh]
    rw [inSlot, SessionM.map_apply, Session.lengthInSlot, Session.inSlot_of_open handled hs]
    simp [onFile, Session.after, same, Session.noticing, notices, Except.map, Except.mapError]

/-! ## Disposal -/

/-- A first or later disposal marks the stream. -/
theorem Session.marking_eq (hw : s.stream? id = some wrapper) (marked : wrapper.disposed = true) :
    s.marking id wrapper = s := by
  have kept : s.streams.modify id.index ({ · with disposed := true }) = s.streams :=
    Registry.modify_eq_self_of_some hw (by rw [← marked])
  simp [marking, noticing, Wrapper.endNotices, marked, kept]

/-- Closing fails while somebody else holds the slot, and empties it otherwise. -/
theorem Session.closeHandle_eq (hw : s.stream? id = some wrapper)
    (hh : s.handles.get? wrapper.native.identity = some handle) :
    closeHandle id s = if handle.busy then (.error handle.busyError, s)
      else (.ok (), (s.putSlot wrapper.native.identity none).noticing
        (if handle.isOpen then [fileNotice "Closed file" handle.path []] else [])) := by
  have handled : s.handleOf? id = some handle := by rw [handleOf?_eq hw, hh]
  have emptied : s.handles.modify wrapper.native.identity (fun _ => { handle with slot := none }) =
      s.handles.modify wrapper.native.identity ({ · with slot := none }) :=
    Registry.modify_congr (by rw [hh]; rintro _ ⟨⟩; rfl)
  cases hb : handle.busy with
  | true => simp [closeHandle, handled, FileHandle.close, hb]
  | false =>
    rw [hb] at emptied
    cases ho : handle.isOpen <;>
      simp [closeHandle, handled, FileHandle.close, hb, ho, modifyHandle, hw, emptied, putSlot,
        noticing, report]

/-- A stream closes its handle once, when nobody else holds the slot. -/
theorem Session.closeNative_eq (hw : s.stream? id = some wrapper)
    (hh : s.handles.get? wrapper.native.identity = some handle) :
    closeNative id s =
      if wrapper.needsClose = false then (.ok (), s)
      else if handle.busy then (.error handle.busyError, s)
      else (.ok (), s.closing id wrapper.native.identity handle) := by
  have closed := closeHandle_eq hw hh
  cases hn : wrapper.needsClose with
  | false => simp [closeNative, hw, hn]
  | true =>
    cases hb : handle.busy with
    | true => simp [closeNative, hw, hn, closed, hb]
    | false => simp [closeNative, hw, hn, closed, hb, modifyStream, closing, putSlot, noticing]

/-- A disposal begins with the mark. -/
theorem Session.markDisposed_eq (hw : s.stream? id = some wrapper) :
    markDisposed id s = ((), s.marking id wrapper) := by
  cases hd : wrapper.disposed with
  | true => simp [markDisposed, hw, hd, marking_eq hw hd]
  | false =>
    simp [markDisposed, hw, hd, modifyStream, report, marking, noticing, Wrapper.endNotices]

theorem Session.stream?_marking (hw : s.stream? id = some wrapper) :
    (s.marking id wrapper).stream? id = some { wrapper with disposed := true } := by
  have found : s.streams.get? id.index = some wrapper := hw
  simp [marking, noticing, stream?, found]

/-- A disposal marks the stream.  It then closes the handle unless this stream has done so before,
and fails if the handle is busy. -/
theorem Session.dispose_eq (hw : s.stream? id = some wrapper)
    (hh : s.handles.get? wrapper.native.identity = some handle) :
    dispose id s =
      if wrapper.needsClose = false then (.ok (), s.marking id wrapper)
      else if handle.busy then (.error handle.busyError, s.marking id wrapper)
      else (.ok (), (s.marking id wrapper).closing id wrapper.native.identity handle) := by
  have same : (s.marking id wrapper).handles.get? wrapper.native.identity = some handle := hh
  have closed := closeNative_eq (stream?_marking hw) same
  rw [dispose, SessionM.bind_apply, markDisposed_eq hw]
  exact closed

/-- The end of a stream is a disposal whose failure is only reported. -/
theorem Session.drop_eq (hw : s.stream? id = some wrapper) :
    drop id s = match dispose id s with
      | (.error e, s') => ((), s'.noticing [wrapper.dropNotice e])
      | (.ok _, s') => ((), s') := by
  cases h : dispose id s with
  | mk result s' => cases result <;> simp [drop, h, hw, report, noticing]

/-! ## Paths -/

/-- The log event of a path that has been opened or made. -/
def Mode.obtained (mode : Mode) (path : String) : Log.Event :=
  match mode with
  | .reading => fileNotice "Opened file for reading" path []
  | .writing => fileNotice "Created file" path []

namespace Session

variable {fault : IoFault} {tree : Tree} {path : String}

/-- Opens the file at a path for reading, or makes one for writing. -/
def obtain (mode : Mode) (path : String) : SessionM (Except HostError StreamId) :=
  match mode with
  | .reading => openStream path
  | .writing => createStream path

theorem openStream_of_error (h : s.tree.find s.directory (.ofText path) = .error fault) :
    openStream path s = (.error (.io fault), s) := by
  simp [openStream, h]

/-- Opening makes a stream over what the path leads to. -/
theorem openStream_of_ok {entry : TreeEntry}
    (h : s.tree.find s.directory (.ofText path) = .ok entry) :
    openStream path s = (.ok ⟨s.streams.next⟩,
      (s.noticing [fileNotice "Opened file for reading" path []]).adding path
        (.make .reading entry)) := by
  simp [openStream, h, addHandle, addStream, noticing, adding, report]

/-- The directories that have been made on the way stay. -/
theorem createStream_of_error
    (h : s.tree.createWithParents s.directory (.ofText path) = (.error fault, tree)) :
    createStream path s = (.error (.io fault), { s with tree }) := by
  simp [createStream, h]

/-- Creating makes a stream over a file that holds nothing. -/
theorem createStream_of_ok {index : Nat}
    (h : s.tree.createWithParents s.directory (.ofText path) = (.ok index, tree)) :
    createStream path s = (.ok ⟨s.streams.next⟩,
      ({ s with tree }.noticing [fileNotice "Created file" path []]).adding path
        (.make .writing (.file index))) := by
  simp [createStream, h, addHandle, addStream, noticing, adding, report]

end Session

end Hostlink.Storage
