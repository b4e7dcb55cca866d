import Hostlink.Proofs.Nested.Basic
import Hostlink.Proofs.Network.Desk

/-!
# Operations on sources and adapters

What a client can ask sources and adapters for, as data.  Unlike a command of the desk, an operation
names the objects themselves, and its callbacks may begin operations too.

An operation may begin a *notification*: it calls every handler that the event of a source has at that
time with one value.  `notification` tells from the objects which one.
-/

namespace Hostlink

/-! ## Existing objects -/

namespace Objects

/-- Whether a source exists. -/
def HasSource (o : Objects) (s : SourceId) : Prop := s.index < o.sources.next

/-- Whether a function exists and is the client's own code. -/
def HasCallback (o : Objects) (f : FunctionId) : Prop := o.HasFunction f ∧ o.function f = ⟨f, []⟩

/-- Whether an adapter exists, over its source. -/
def HasAdapter (o : Objects) (a : NetworkAdapter) : Prop :=
  ∃ wrapper ∈ o.wrapper? a.wrapper, wrapper.native = a.source.native

/-- Whether a wrapper has been disposed of. -/
def Disposed (o : Objects) (k : WrapperId) : Prop := ∃ wrapper ∈ o.wrapper? k, wrapper.disposed = true

/-- What a source has seen last. -/
def available (o : Objects) (s : SourceId) : Bool := ((o.source? s).map (·.available)).getD false

/-- The handlers of a source now, in order. -/
def listeners (o : Objects) (s : SourceId) : List FunctionId :=
  (o.event (((o.source? s).map (·.changed)).getD ⟨0⟩)).handlers

/-- The callbacks that are attached through a wrapper now, with their native callbacks. -/
def registrations (o : Objects) (k : WrapperId) : List Registration :=
  (o.table (.ofWrapper k)).entries NetworkAdapter.availabilityChanged

instance (o : Objects) (s : SourceId) : Decidable (o.HasSource s) :=
  inferInstanceAs (Decidable (s.index < o.sources.next))

instance (o : Objects) (f : FunctionId) : Decidable (o.HasCallback f) :=
  inferInstanceAs (Decidable (o.HasFunction f ∧ o.function f = ⟨f, []⟩))

instance (o : Objects) (a : NetworkAdapter) : Decidable (o.HasAdapter a) :=
  inferInstanceAs (Decidable (∃ wrapper ∈ o.wrapper? a.wrapper, wrapper.native = a.source.native))

instance (o : Objects) (k : WrapperId) : Decidable (o.Disposed k) :=
  inferInstanceAs (Decidable (∃ wrapper ∈ o.wrapper? k, wrapper.disposed = true))

end Objects

/-- The availability that a call tells about. -/
def Payload.available? : Payload → Option Bool
  | .status value | .change value => some value.available
  | .int _ | .text _ => none

/-- An activity with its result turned into a reply. -/
def Activity.replying {σ α : Type} (reply : α → Network.Reply) (a : Activity σ α) :
    Activity σ Network.Reply :=
  a.bind fun result => .done (reply result)

namespace Notifying

open Network (Reply)

/-- An operation on sources and adapters. -/
inductive Operation where
  | makeSource (address : String)
  | makeAdapter (source : SourceId)
  | makeCallback
  | on (adapter : NetworkAdapter) (callback : FunctionId)
  | off (adapter : NetworkAdapter) (callback : FunctionId)
  | record (source : SourceId) (available : Bool)
  /-- Polls while the probe comes to this result. -/
  | poll (adapter : NetworkAdapter) (reachable : Bool)
  /-- Raises the event of a source as the platform does. -/
  | raise (source : SourceId) (value : Availability)
  /-- Adds a callback to the event of a source, without an adapter. -/
  | add (source : SourceId) (callback : FunctionId)
  | remove (source : SourceId) (callback : FunctionId)
  | clear (source : SourceId)
  | count (source : SourceId)
  | isAvailable (adapter : NetworkAdapter)
  | dispose (adapter : NetworkAdapter)
  | drop (adapter : NetworkAdapter)
  deriving DecidableEq, Repr

namespace Operation

/-- How an operation is performed. -/
def activity : Operation → Activity Unit Reply
  | .makeSource address => (SourceId.make address).replying fun _ => .done
  | .makeAdapter s => (NetworkAdapter.ofSource s).replying fun _ => .done
  | .makeCallback => FunctionId.make.replying fun _ => .done
  | .on a f => (a.on f).replying (Network.Desk.replyOf fun _ => .done)
  | .off a f => (a.off f).replying .flag
  | .record s available => (s.record available).replying .flag
  | .poll a reachable => (a.poll fun _ => reachable).replying (Network.Desk.replyOf .flag)
  | .raise s value => (s.changed.bind fun event => event.raise (.status value)).replying .count
  | .add s f => (s.changed.bind fun event => event.add f).replying fun _ => .done
  | .remove s f => (s.changed.bind fun event => event.remove f).replying .flag
  | .clear s => (s.changed.bind fun event => event.clear).replying fun _ => .done
  | .count s => (s.changed.bind fun event => event.count).replying .count
  | .isAvailable a => a.isAvailable.replying .flag
  | .dispose a => a.dispose.replying (Network.Desk.replyOf fun _ => .done)
  | .drop a => a.drop.replying fun _ => .done

/-- Whether the objects exist that an operation names. -/
def Valid (o : Objects) : Operation → Prop
  | .makeSource _ | .makeCallback => True
  | .makeAdapter s | .record s _ | .raise s _ | .clear s | .count s => o.HasSource s
  | .add s f | .remove s f => o.HasSource s ∧ o.HasCallback f
  | .on a f | .off a f => o.HasAdapter a ∧ o.HasCallback f
  | .poll a _ | .isAvailable a | .dispose a | .drop a => o.HasAdapter a

instance (o : Objects) : (op : Operation) → Decidable (op.Valid o)
  | .makeSource _ | .makeCallback => inferInstanceAs (Decidable True)
  | .makeAdapter s | .record s _ | .raise s _ | .clear s | .count s =>
    inferInstanceAs (Decidable (o.HasSource s))
  | .add s f | .remove s f => inferInstanceAs (Decidable (o.HasSource s ∧ o.HasCallback f))
  | .on a f | .off a f => inferInstanceAs (Decidable (o.HasAdapter a ∧ o.HasCallback f))
  | .poll a _ | .isAvailable a | .dispose a | .drop a =>
    inferInstanceAs (Decidable (o.HasAdapter a))

/-! ## Observations and notifications -/

/-- What an operation has a source observe. -/
def observation (o : Objects) : Operation → Option (SourceId × Bool)
  | .record s available => some (s, available)
  | .poll a reachable => if o.Disposed a.wrapper then none else some (a.source, reachable)
  | _ => none

/-- The objects after the observation of an operation. -/
def observed (o : Objects) (op : Operation) : Objects :=
  match op.observation o with
  | some (s, available) => o.modifySource s fun source => { source with available }
  | none => o

/-- The source whose handlers an operation calls, and the value that it calls them with: an
observation makes a notification exactly if it is a change. -/
def notification (o : Objects) (op : Operation) : Option (SourceId × Availability) :=
  match op with
  | .raise s value => some (s, value)
  | op =>
    match op.observation o with
    | some (s, available) => if o.available s = available then none else some (s, ⟨available, none⟩)
    | none => none

/-- The handlers that an operation notifies. -/
def notified (o : Objects) (op : Operation) : List FunctionId :=
  match op.notification o with
  | some (s, _) => o.listeners s
  | none => []

/-- The value that an operation notifies handlers of. -/
def announced (o : Objects) (op : Operation) : Availability :=
  match op.notification o with
  | some (_, value) => value
  | none => ⟨false, none⟩

/-- The adapter that an operation disposes of. -/
def disposed? : Operation → Option NetworkAdapter
  | .dispose a | .drop a => some a
  | _ => none

end Operation

/-! ## Calls -/

/-- A call of an operation. -/
abbrev Call := Nested.Call Operation

/-- What has happened in a call. -/
abbrev Entry := Nested.Entry Operation Reply

/-- A call that waits for a callback. -/
abbrev Frame := Nested.Frame Operation Reply

/-- A state of a run. -/
abbrev State := Nested.State Operation Reply

/-- Which operations the client may begin. -/
abbrev Rule := Nested.Rule Operation Reply

/-- The rule of every client: it names only what exists. -/
def Rule.valid : Rule := fun s op => op.Valid s.objects

instance (s : State) (op : Operation) : Decidable (Rule.valid s op) :=
  inferInstanceAs (Decidable (op.Valid s.objects))

/-- The notification that a call makes. -/
def notification (call : Call) : Option (SourceId × Availability) :=
  call.operation.notification call.start

/-- The handlers that a call notifies: those that the source had when the call began. -/
def notified (call : Call) : List FunctionId := call.operation.notified call.start

/-- The value that a call notifies handlers of. -/
def announced (call : Call) : Availability := call.operation.announced call.start

/-- The handlers that a waiting call has still to call when it is answered. -/
def remaining (frame : Frame) : List FunctionId := (notified frame.call).drop (frame.turn + 1)

/-- Whether a handler is called. -/
def Reaches (x : Entry) (f : FunctionId) : Prop :=
  ∃ turn upcall, x.event = .asked turn upcall ∧ (notified x.call)[turn]? = some f

/-- The callback that is called. -/
def called? (x : Entry) : Option FunctionId :=
  match x.event with
  | .asked _ (.invoke f _) => some f
  | _ => none

instance (x : Entry) (f : FunctionId) : Decidable (Reaches x f) :=
  match hevent : x.event with
  | .asked turn upcall =>
    if h : (notified x.call)[turn]? = some f then .isTrue ⟨turn, upcall, hevent, h⟩
    else .isFalse (by
      rintro ⟨turn', upcall', hevent', h'⟩
      obtain ⟨rfl, _⟩ := Nested.Event.asked.inj (hevent.symm.trans hevent')
      exact h h')
  | .returned reply => .isFalse (by
      rintro ⟨turn, upcall, hevent', _⟩
      cases hevent.symm.trans hevent')
  | .panicked message => .isFalse (by
      rintro ⟨turn, upcall, hevent', _⟩
      cases hevent.symm.trans hevent')

end Notifying
end Hostlink
