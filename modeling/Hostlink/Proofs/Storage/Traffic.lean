import Mathlib.Data.List.Induction
import Hostlink.Proofs.Storage.Call
import Hostlink.Storage.Scenario

/-!
# Traffic on shared handles

Calls overlap.  A call first finds out whether its stream has been disposed of, then waits for the
slot of the handle, and is carried out while it has the slot.  Others who know the handle use the
slot as well.  In between, streams are made, shared, disposed of and dropped.

The traffic is a machine that takes one such action at a time.  A stream may act after it has been
dropped, which no program can do; what holds of all traffic holds of what programs do.
-/

namespace Hostlink.Storage

/-- What is done while one has the slot of a handle. -/
inductive Work where
  | call (c : Call)
  /-- Somebody else's work on the file, if it is still there.  It can end with the slot empty, but
  does not fill an empty slot. -/
  | other (use : OpenFile → Tree → Option OpenFile × Tree)

/-- How far somebody has come who needs the slot of a handle. -/
inductive Phase where
  | waiting
  | holding
  | finished
  deriving DecidableEq, Repr

/-- Some work that needs the slot of a stream's handle. -/
structure Task where
  id : StreamId
  work : Work
  phase : Phase

/-- Work of others cannot be compared, but calls can. -/
instance (found : Option Task) (id : StreamId) (c : Call) (phase : Phase) :
    Decidable (found = some ⟨id, .call c, phase⟩) :=
  match found with
  | some ⟨id', .call c', phase'⟩ =>
    decidable_of_iff (id' = id ∧ c' = c ∧ phase' = phase) (by simp)
  | some ⟨_, .other _, _⟩ => isFalse (by simp)
  | none => isFalse (by simp)

/-- A session with the work that has begun in it. -/
structure Traffic where
  session : Session
  tasks : Registry Task

/-- What is done in a session. -/
inductive Action where
  | obtain (mode : Mode) (path : String)
  | share (id : StreamId)
  | lookUp (path : String)
  | list (path : String)
  | delete (path : String)
  /-- Drops an entry of a directory that was listed. -/
  | dropEntry (index : Nat)
  | begin (id : StreamId) (work : Work)
  /-- A task that waits gets the slot, if nobody has it. -/
  | take (task : Nat)
  /-- A task that has the slot does its work and gives the slot free. -/
  | finish (task : Nat)
  | dispose (id : StreamId)
  | drop (id : StreamId)
  /-- Closes the handle of a stream without the stream. -/
  | close (id : StreamId)

/-- What comes back from an action. -/
inductive Answer where
  | stream (result : Except HostError StreamId)
  | seen (result : Except HostError Bool)
  | listed (result : Except HostError (List (Name × TreeEntry)))
  | ended (result : Except HostError Unit)
  /-- A task has been made, which waits. -/
  | waits (task : Nat)
  | taken
  | returned (result : Except HostError Reply)
  /-- Somebody else has left the slot, with the file in it or empty. -/
  | left (isOpen : Bool)
  | nothing
  deriving DecidableEq, Repr

/-- Whether a stream is there, and nobody has the slot of its handle. -/
def Session.isFree (s : Session) (id : StreamId) : Bool := (s.handleOf? id).any (! ·.busy)

/-- Does some work while it has the slot. -/
def Work.carryOut (id : StreamId) : Work → SessionM Answer
  | .call c => Answer.returned <$> c.inSlot id
  | .other use => do
    let s ← get
    match (s.handleOf? id).bind (·.slot) with
    | some file =>
      let (slot, tree) := use file s.tree
      set { s with tree }
      Session.modifyHandle id fun h => { h with slot }
      return .left slot.isSome
    | none => return .left false

namespace Traffic

/-- Nothing has been done yet. -/
def start (tree : Tree) (directory : Location) : Traffic :=
  ⟨⟨tree, directory, .empty, .empty, []⟩, .empty⟩

/-- Does an operation of the session. -/
def lift {α : Type} (t : Traffic) (answer : α → Answer) (operation : SessionM α) :
    Answer × Traffic :=
  (answer (operation t.session).1, { t with session := (operation t.session).2 })

/-- Makes a task. -/
def queue (t : Traffic) (id : StreamId) (work : Work) : Answer × Traffic :=
  (.waits t.tasks.next, { t with tasks := t.tasks.insert ⟨id, work, .waiting⟩ })

/-- Begins some work.  A call is refused if its stream has been disposed of. -/
def begin (t : Traffic) (id : StreamId) : Work → Answer × Traffic
  | .call c =>
    match (Session.ensureLive id t.session).1 with
    | .error e => (.returned (.error e), t)
    | .ok _ => t.queue id (.call c)
  | .other use => if (t.session.stream? id).isSome then t.queue id (.other use) else (.nothing, t)

/-- Lets a task go on. -/
def advance (t : Traffic) (task : Nat) (phase : Phase) (busy : Bool) (id : StreamId)
    (s : Session) : Traffic :=
  ⟨(Session.setBusy id busy s).2, t.tasks.modify task ({ · with phase })⟩

/-- Does one action. -/
def step (t : Traffic) : Action → Answer × Traffic
  | .obtain mode path => t.lift .stream (Session.obtain mode path)
  | .share id => t.lift (fun new => .stream (.ok new)) (Session.share id)
  | .lookUp path => t.lift .seen (Session.exists? path)
  | .list path => t.lift .listed (Session.list path)
  | .delete path => t.lift .ended (Session.delete path)
  | .dropEntry index =>
    t.lift (fun _ => .nothing)
      (Session.report ((Wrapper.borrowed ⟨Scenario.entryTypeName, index⟩).disposalNotice 0))
  | .begin id work => t.begin id work
  | .take n =>
    match t.tasks.get? n with
    | some ⟨id, _, .waiting⟩ =>
      if t.session.isFree id then (.taken, t.advance n .holding true id t.session)
      else (.nothing, t)
    | _ => (.nothing, t)
  | .finish n =>
    match t.tasks.get? n with
    | some ⟨id, work, .holding⟩ =>
      let (answer, s) := work.carryOut id t.session
      (answer, t.advance n .finished false id s)
    | _ => (.nothing, t)
  | .dispose id => t.lift .ended (Session.dispose id)
  | .drop id => t.lift (fun _ => .nothing) (Session.drop id)
  | .close id => t.lift .ended (Session.closeHandle id)

/-- The traffic after actions. -/
def after (t : Traffic) (actions : List Action) : Traffic :=
  actions.foldl (fun t a => (t.step a).2) t

/-- What comes back from actions. -/
def answers (t : Traffic) : List Action → List Answer
  | [] => []
  | a :: actions => (t.step a).1 :: answers (t.step a).2 actions

/-! ## Histories -/

/-- Whether one of the actions was such when it was done. -/
def Once (t₀ : Traffic) (P : Traffic → Action → Prop) (actions : List Action) : Prop :=
  ∃ before a later, actions = before ++ a :: later ∧ P (t₀.after before) a

section Histories

variable {t₀ : Traffic} {P : Traffic → Action → Prop} {actions : List Action}

theorem after_append (t : Traffic) (actions more : List Action) :
    t.after (actions ++ more) = (t.after actions).after more :=
  List.foldl_append ..

theorem not_once_nil : ¬ t₀.Once P [] := by
  rintro ⟨before, a, later, same, -⟩
  simp at same

/-- What has happened at some time has happened at the last action or before it. -/
theorem once_append_singleton (a : Action) :
    t₀.Once P (actions ++ [a]) ↔ t₀.Once P actions ∨ P (t₀.after actions) a := by
  constructor
  · rintro ⟨before, b, later, same, holds⟩
    cases later using List.reverseRecOn with
    | nil =>
      obtain ⟨rfl, last⟩ := List.append_inj' same rfl
      obtain rfl : a = b := by simpa using last
      exact .inr holds
    | append_singleton later last =>
      have same' : actions ++ [a] = (before ++ b :: later) ++ [last] := by simpa using same
      exact .inl ⟨before, b, later, (List.append_inj' same' rfl).1, holds⟩
  · rintro (⟨before, b, later, rfl, holds⟩ | holds)
    · exact ⟨before, b, later ++ [a], by simp, holds⟩
    · exact ⟨actions, a, [], rfl, holds⟩

/-- What has happened at some time has happened at the first action or later. -/
theorem once_cons (a : Action) :
    t₀.Once P (a :: actions) ↔ P t₀ a ∨ (t₀.step a).2.Once P actions := by
  constructor
  · rintro ⟨before, b, later, same, holds⟩
    cases before with
    | nil =>
      obtain ⟨rfl, rfl⟩ := List.cons.inj same
      exact .inl holds
    | cons first before =>
      obtain ⟨rfl, rfl⟩ := List.cons.inj same
      exact .inr ⟨before, b, later, rfl, holds⟩
  · rintro (holds | ⟨before, b, later, rfl, holds⟩)
    · exact ⟨[], a, actions, rfl, holds⟩
    · exact ⟨a :: before, b, later, rfl, holds⟩

end Histories

end Traffic

/-! ## What work and disposal do to the session -/

namespace Session

variable {s : Session} {id : StreamId} {wrapper : Wrapper} {handle : FileHandle}

/-- The session in which somebody has got the slot of a handle, or given it free. -/
def putBusy (s : Session) (index : Nat) (busy : Bool) : Session :=
  { s with handles := s.handles.modify index ({ · with busy }) }

theorem setBusy_eq (hw : s.stream? id = some wrapper) (busy : Bool) :
    setBusy id busy s = ((), s.putBusy wrapper.native.identity busy) := by
  simp [setBusy, modifyHandle, putBusy, hw]

/-- Getting the slot and giving it free again changes nothing. -/
theorem putBusy_putBusy {index : Nat}
    (free : ∀ handle, s.handles.get? index = some handle → handle.busy = false) :
    (s.putBusy index true).putBusy index false = s := by
  have kept : (s.handles.modify index ({ · with busy := true })).modify index
      ({ · with busy := false }) = s.handles := by
    rw [Registry.modify_modify]
    refine Registry.modify_eq_self fun handle found => ?_
    simp [← free handle found]
  rw [putBusy, putBusy, kept]

/-- A change of one stream leaves the others as they are. -/
theorem get?_modify_stream {streams : Registry Wrapper}
    (found : streams.get? id.index = some wrapper) (other : StreamId) (f : Wrapper → Wrapper) :
    (streams.modify other.index f).get? id.index =
      some (if other = id then f wrapper else wrapper) := by
  obtain ⟨index⟩ := id
  obtain ⟨index'⟩ := other
  by_cases same : index' = index
  · subst same
    simp [found]
  · simp [Registry.get?_modify_other _ _ same, found, same]

theorem isFree_eq (hw : s.stream? id = some wrapper)
    (hh : s.handles.get? wrapper.native.identity = some handle) : s.isFree id = !handle.busy := by
  simp [isFree, handleOf?_eq hw, hh]

/-- Who has the slot makes no difference to a call. -/
theorem inSlot_putBusy (c : Call) (hw : s.stream? id = some wrapper)
    (hh : s.handles.get? wrapper.native.identity = some handle) (busy : Bool) :
    c.inSlot id (s.putBusy wrapper.native.identity busy) =
      ((c.inSlot id s).1, (c.inSlot id s).2.putBusy wrapper.native.identity busy) := by
  have hw' : (s.putBusy wrapper.native.identity busy).stream? id = some wrapper := hw
  have hh' : (s.putBusy wrapper.native.identity busy).handles.get? wrapper.native.identity =
      some { handle with busy } := by simp [putBusy, hh]
  cases hs : handle.slot with
  | none =>
    rw [c.inSlot_of_closed ((handleOf?_eq hw).trans hh) hs,
      c.inSlot_of_closed ((handleOf?_eq hw').trans hh') hs]
  | some file =>
    rw [c.inSlot_of_open hw hh hs, c.inSlot_of_open hw' hh' hs]
    simp only [after, putBusy, putSlot, noticing, Registry.modify_modify]
    rfl

/-- A call leaves the stream as it is, and the handle with whoever has the slot. -/
theorem inSlot_frame (c : Call) (hw : s.stream? id = some wrapper)
    (hh : s.handles.get? wrapper.native.identity = some handle) :
    (c.inSlot id s).2.stream? id = some wrapper ∧ ∃ slot,
      (c.inSlot id s).2.handles.get? wrapper.native.identity = some { handle with slot } := by
  cases hs : handle.slot with
  | none =>
    rw [c.inSlot_of_closed ((handleOf?_eq hw).trans hh) hs]
    exact ⟨hw, none, by rw [hh, ← hs]⟩
  | some file =>
    rw [c.inSlot_of_open hw hh hs]
    exact ⟨hw, _, by simp [after, noticing, putSlot, hh]; rfl⟩

end Session

namespace Work

variable {s : Session} {id : StreamId} {wrapper : Wrapper} {handle : FileHandle} {file : OpenFile}

/-- How work ends that finds the slot empty. -/
def turnedAway : Work → Answer
  | .call _ => .returned (.error (.objectDisposed Session.streamTypeName))
  | .other _ => .left false

/-- Work that finds the slot empty changes nothing. -/
theorem carryOut_of_closed (work : Work) (hw : s.stream? id = some wrapper)
    (hh : s.handles.get? wrapper.native.identity = some handle) (empty : handle.slot = none) :
    work.carryOut id s = (work.turnedAway, s) := by
  have handled : s.handleOf? id = some handle := by rw [Session.handleOf?_eq hw, hh]
  cases work with
  | call c => simp [carryOut, turnedAway, c.inSlot_of_closed handled empty]
  | other use => simp [carryOut, turnedAway, handled, empty]

theorem carryOut_call (c : Call) (hw : s.stream? id = some wrapper)
    (hh : s.handles.get? wrapper.native.identity = some handle) (hs : handle.slot = some file) :
    (Work.call c).carryOut id s = (.returned ((c.onFile file s.tree).1.mapError .io),
      s.after c wrapper.native.identity handle.path file) := by
  simp [carryOut, c.inSlot_of_open hw hh hs]

theorem carryOut_other (use : OpenFile → Tree → Option OpenFile × Tree)
    (hw : s.stream? id = some wrapper)
    (hh : s.handles.get? wrapper.native.identity = some handle) (hs : handle.slot = some file) :
    (Work.other use).carryOut id s = (.left (use file s.tree).1.isSome,
      { s with tree := (use file s.tree).2 }.putSlot wrapper.native.identity
        (use file s.tree).1) := by
  have handled : s.handleOf? id = some handle := by rw [Session.handleOf?_eq hw, hh]
  have stream : ({ s with tree := (use file s.tree).2 } : Session).stream? id = some wrapper := hw
  simp [carryOut, handled, hs, Session.modifyHandle, stream, Session.putSlot]

/-- Work changes the tree and one slot, which stays empty if it was. -/
theorem carryOut_cases (work : Work) (hw : s.stream? id = some wrapper)
    (hh : s.handles.get? wrapper.native.identity = some handle) :
    ∃ slot tree notices, (handle.slot = none → slot = none) ∧ (work.carryOut id s).2 =
      ({ s with tree }.putSlot wrapper.native.identity slot).noticing notices := by
  cases hs : handle.slot with
  | none =>
    have same : ({ s with tree := s.tree }.putSlot wrapper.native.identity none).noticing [] =
        s := by
      rw [← hs]
      exact Session.putSlot_eq_self hh
    exact ⟨none, s.tree, [], fun _ => rfl, by rw [same, work.carryOut_of_closed hw hh hs]⟩
  | some file =>
    cases work with
    | call c => exact ⟨_, _, _, by simp, by rw [carryOut_call c hw hh hs]; rfl⟩
    | other use =>
      exact ⟨(use file s.tree).1, (use file s.tree).2, [], by simp,
        by rw [carryOut_other use hw hh hs]; rfl⟩

end Work

namespace Session

variable {s : Session} {id : StreamId} {wrapper : Wrapper} {handle : FileHandle}

/-- Whether each stream owns a handle, the slot of which is empty if the stream has closed it. -/
def Backed (s : Session) : Prop :=
  ∀ id wrapper, s.stream? id = some wrapper → wrapper.ownership = .owned ∧
    ∃ handle, s.handles.get? wrapper.native.identity = some handle ∧
      (wrapper.closed = true → handle.slot = none)

/-- A stream that is not there is disposed of without effect. -/
theorem dispose_of_missing (missing : s.stream? id = none) : dispose id s = (.ok (), s) := by
  simp [dispose, markDisposed, closeNative, missing]

theorem drop_of_missing (missing : s.stream? id = none) : drop id s = ((), s) := by
  simp [drop, dispose_of_missing missing, missing]

/-- The end of a stream is a disposal but for log events. -/
theorem drop_frame (s : Session) (id : StreamId) :
    ∃ notices, (drop id s).2 = (dispose id s).2.noticing notices := by
  cases hw : s.stream? id with
  | none => exact ⟨[], by rw [drop_of_missing hw, dispose_of_missing hw]; rfl⟩
  | some wrapper =>
    rw [drop_eq hw]
    cases dispose id s with
    | mk result s' =>
      cases result with
      | error e => exact ⟨[wrapper.dropNotice e], rfl⟩
      | ok _ => exact ⟨[], rfl⟩

/-- Obtaining a stream fails and leaves the handles and streams, or makes one over a new handle. -/
theorem obtain_cases (mode : Mode) (path : String) (s : Session) :
    (∃ fault tree, obtain mode path s = (.error (.io fault), { s with tree })) ∨
    ∃ tree entry, obtain mode path s =
      (.ok ⟨s.streams.next⟩, ({ s with tree }.noticing [mode.obtained path]).adding path
        (.make mode entry)) := by
  cases mode with
  | reading =>
    cases h : s.tree.find s.directory (.ofText path) with
    | error fault => exact .inl ⟨fault, s.tree, openStream_of_error h⟩
    | ok entry => exact .inr ⟨s.tree, entry, openStream_of_ok h⟩
  | writing =>
    cases h : s.tree.createWithParents s.directory (.ofText path) with
    | mk result tree =>
      cases result with
      | error fault => exact .inl ⟨fault, tree, createStream_of_error h⟩
      | ok index => exact .inr ⟨tree, .file index, createStream_of_ok h⟩

theorem closeHandle_of_missing (missing : s.stream? id = none) :
    closeHandle id s = (.ok (), s) := by
  simp [closeHandle, handleOf?, missing]

theorem share_of_missing (missing : s.stream? id = none) : share id s = (id, s) := by
  simp [share, missing]

theorem share_eq (hw : s.stream? id = some wrapper) :
    share id s =
      (⟨s.streams.next⟩, { s with streams := s.streams.insert (.owned wrapper.native) }) := by
  simp [share, addStream, hw]

/-- Listing changes nothing. -/
theorem list_cases (path : String) (s : Session) :
    (∃ fault, list path s = (.error (.io fault), s)) ∨ ∃ entries, list path s =
      (.ok entries,
        s.noticing [fileNotice "Listed directory" path [⟨"count", .int entries.length⟩]]) := by
  cases h : s.tree.list s.directory (.ofText path) with
  | error fault => exact .inl ⟨fault, by simp [list, h]⟩
  | ok entries => exact .inr ⟨entries, by simp [list, h, report, noticing]⟩

/-- Deleting changes the tree only. -/
theorem delete_cases (path : String) (s : Session) :
    (∃ fault, delete path s = (.error (.io fault), s)) ∨ ∃ tree, delete path s =
      (.ok (), { s with tree }.noticing [fileNotice "Deleted file" path []]) := by
  cases h : s.tree.remove s.directory (.ofText path) with
  | error fault => exact .inl ⟨fault, by simp [delete, h]⟩
  | ok tree => exact .inr ⟨tree, by simp [delete, h, report, noticing]⟩

end Session

/-! ## Calls that nobody interrupts -/

namespace Traffic

variable {t : Traffic} {id : StreamId} {wrapper : Wrapper} {handle : FileHandle}

/-- A call on a stream that has not been disposed of waits. -/
theorem begin_live (hw : t.session.stream? id = some wrapper) (live : wrapper.disposed = false)
    (c : Call) : t.step (.begin id (.call c)) = t.queue id (.call c) := by
  simp [step, begin, Session.ensureLive, Wrapper.ensureLive, hw, live]

theorem finish_eq {n : Nat} {work : Work} (task : t.tasks.get? n = some ⟨id, work, .holding⟩) :
    t.step (.finish n) = ((work.carryOut id t.session).1,
      t.advance n .finished false id (work.carryOut id t.session).2) := by
  simp only [step, task]
  rfl

/-- A call that goes through its parts without interruption is the operation of the session. -/
theorem uninterrupted (hw : t.session.stream? id = some wrapper) (live : wrapper.disposed = false)
    (hh : t.session.handles.get? wrapper.native.identity = some handle)
    (free : handle.busy = false) (c : Call) :
    let actions := [.begin id (.call c), .take t.tasks.next, .finish t.tasks.next]
    t.answers actions =
        [.waits t.tasks.next, .taken, .returned (c.perform id t.session).1] ∧
      (t.after actions).session = (c.perform id t.session).2 := by
  have whole : c.perform id t.session = c.inSlot id t.session := by
    rw [c.perform_eq hw, live, if_neg (by simp)]
  let held : Traffic := ⟨t.session.putBusy wrapper.native.identity true,
    t.tasks.insert ⟨id, .call c, .holding⟩⟩
  have begins := begin_live hw live c
  have takes : (t.queue id (.call c)).2.step (.take t.tasks.next) = (.taken, held) := by
    simp [queue, step, Session.isFree_eq hw hh, free, advance, Session.setBusy_eq hw,
      Registry.modify_insert_next, held]
  have task : held.tasks.get? t.tasks.next = some ⟨id, .call c, .holding⟩ := by simp [held]
  have finishes := finish_eq task
  have done : (Work.call c).carryOut id held.session =
      (.returned (c.inSlot id t.session).1,
        (c.inSlot id t.session).2.putBusy wrapper.native.identity true) := by
    simp [Work.carryOut, held, Session.inSlot_putBusy c hw hh]
  rw [done, advance] at finishes
  obtain ⟨stays, slot, leaves⟩ := Session.inSlot_frame c hw hh
  have stays' : ((c.inSlot id t.session).2.putBusy wrapper.native.identity true).stream? id =
      some wrapper := stays
  simp only [answers, after, List.foldl_cons, List.foldl_nil, begins, takes, finishes, whole,
    Session.setBusy_eq stays']
  refine ⟨rfl, Session.putBusy_putBusy ?_⟩
  rw [leaves]
  rintro _ ⟨⟩
  exact free

end Traffic
end Hostlink.Storage
