import Hostlink.Network.Adapter

/-!
# A plain multicast list

The machine that adapters over status sources are measured against.  For each source it has whether
the network is available and one list of listeners; a listener is an adapter and a callback.
Nothing in it is synthesized, and it knows no tables, hooks or identities: sources, adapters and
callbacks go by the number under which they were made.
-/

namespace Hostlink.Network

/-- A command to sources and adapters. -/
inductive Command where
  | makeSource (address : String)
  | makeAdapter (source : Nat)
  | makeCallback
  | on (adapter callback : Nat)
  | off (adapter callback : Nat)
  | record (source : Nat) (available : Bool)
  /-- Polls while the probe comes to this result. -/
  | poll (adapter : Nat) (reachable : Bool)
  /-- Raises the event of a source as the platform does. -/
  | raise (source : Nat) (available : Bool) (time : Time.Instant)
  | dispose (adapter : Nat)
  | drop (adapter : Nat)
  | isAvailable (adapter : Nat)
  | countHandlers (source : Nat)
  deriving DecidableEq, Repr

/-- What a command comes to. -/
inductive Reply where
  | done
  | flag (value : Bool)
  | count (value : Nat)
  | failed (error : HostError)
  | panicked (message : String)
  /-- The command never ends. -/
  | stuck
  /-- The command names something that was not made. -/
  | unknown
  deriving DecidableEq, Repr

/-- What can be seen of a command: its reply, and the callbacks called, with their arguments. -/
structure Response where
  reply : Reply
  calls : List (Nat × Payload)
  deriving DecidableEq, Repr

namespace Machine

/-- A source: what it has seen last, and its listeners, each an adapter with a callback. -/
structure Source where
  available : Bool
  listeners : List (Nat × Nat)
  deriving DecidableEq, Repr

/-- An adapter. -/
structure Adapter where
  source : Nat
  disposed : Bool
  deriving DecidableEq, Repr

end Machine

/-- The state of the machine. -/
structure Machine where
  callbacks : Nat
  sources : List Machine.Source
  adapters : List Machine.Adapter
  deriving DecidableEq, Repr

namespace Machine

/-- Nothing has been made. -/
def empty : Machine := ⟨0, [], []⟩

/-- Replies without calls. -/
def reply (m : Machine) (reply : Reply) : Response × Machine := (⟨reply, []⟩, m)

/-- Goes on with the source of a number. -/
def withSource (m : Machine) (source : Nat) (next : Source → Response × Machine) :
    Response × Machine :=
  match m.sources[source]? with
  | some s => next s
  | none => m.reply .unknown

/-- Goes on with the adapter of a number and its source. -/
def withAdapter (m : Machine) (adapter : Nat) (next : Adapter → Source → Response × Machine) :
    Response × Machine :=
  match m.adapters[adapter]? with
  | some a => m.withSource a.source (next a)
  | none => m.reply .unknown

/-- Adds a callback. -/
def addCallback (m : Machine) : Machine := { m with callbacks := m.callbacks + 1 }

/-- Adds a source that has seen nothing yet. -/
def addSource (m : Machine) : Machine := { m with sources := m.sources ++ [⟨false, []⟩] }

/-- Adds an adapter over a source. -/
def addAdapter (m : Machine) (source : Nat) : Machine :=
  { m with adapters := m.adapters ++ [⟨source, false⟩] }

/-- Sets the listeners of a source. -/
def setListeners (m : Machine) (source : Nat) (listeners : List (Nat × Nat)) : Machine :=
  { m with sources := m.sources.modify source fun s => { s with listeners } }

/-- Sets what a source has seen. -/
def setAvailable (m : Machine) (source : Nat) (available : Bool) : Machine :=
  { m with sources := m.sources.modify source fun s => { s with available } }

/-- Marks an adapter as disposed. -/
def markDisposed (m : Machine) (adapter : Nat) : Machine :=
  { m with adapters := m.adapters.modify adapter fun a => { a with disposed := true } }

/-- The calls of all listeners, once for each occurrence and in order. -/
def Source.calls (s : Source) (argument : Availability) : List (Nat × Payload) :=
  s.listeners.map fun listener => (listener.2, .change argument)

/-- The failure of a command to a disposed adapter. -/
def disposedFailure : Reply :=
  .failed (.objectDisposed "bridge_desktop::network::NetworkStatusSource")

/-- The calls of an observation: exactly if it is a change, all listeners are called with it. -/
def Source.observe (s : Source) (available : Bool) : List (Nat × Payload) :=
  if s.available = available then [] else s.calls ⟨available, none⟩

/-- What a raise comes to: it calls all listeners.  A time that the calendar does not have cannot be
handed on, so then the first listener is not called but causes a panic. -/
def Source.raise (s : Source) (argument : Availability) (time : Time.Instant) : Response :=
  if s.listeners = [] ∨ time.inCalendar then ⟨.count s.listeners.length, s.calls argument⟩
  else ⟨.panicked "No such local time", []⟩

/-- The end of an adapter: its listeners, and no others, are erased. -/
def dispose (m : Machine) (adapter : Nat) (a : Adapter) (s : Source) : Machine :=
  (m.setListeners a.source (s.listeners.filter (·.1 ≠ adapter))).markDisposed adapter

/-- Performs a command. -/
def step (m : Machine) : Command → Response × Machine
  | .makeSource _ => m.addSource.reply .done
  | .makeAdapter source => m.withSource source fun _ => (m.addAdapter source).reply .done
  | .makeCallback => m.addCallback.reply .done
  | .on adapter callback =>
    m.withAdapter adapter fun a s =>
      if m.callbacks ≤ callback then m.reply .unknown
      else if a.disposed then m.reply disposedFailure
      else (m.setListeners a.source (s.listeners ++ [(adapter, callback)])).reply .done
  | .off adapter callback =>
    m.withAdapter adapter fun a s =>
      if m.callbacks ≤ callback then m.reply .unknown
      else (m.setListeners a.source (s.listeners.erase (adapter, callback))).reply
        (.flag (s.listeners.contains (adapter, callback)))
  | .record source available =>
    m.withSource source fun s =>
      (⟨.flag (s.available ≠ available), s.observe available⟩, m.setAvailable source available)
  | .poll adapter reachable =>
    m.withAdapter adapter fun a s =>
      if a.disposed then m.reply disposedFailure
      else (⟨.flag reachable, s.observe reachable⟩, m.setAvailable a.source reachable)
  | .raise source available time =>
    m.withSource source fun s => (s.raise ⟨available, some time⟩ time, m)
  | .dispose adapter => m.withAdapter adapter fun a s => (m.dispose adapter a s).reply .done
  | .drop adapter => m.withAdapter adapter fun a s => (m.dispose adapter a s).reply .done
  | .isAvailable adapter => m.withAdapter adapter fun _ s => m.reply (.flag s.available)
  | .countHandlers source => m.withSource source fun s => m.reply (.count s.listeners.length)

/-- The responses to commands in order. -/
def run (m : Machine) : List Command → List Response
  | [] => []
  | command :: rest =>
    let (response, m') := m.step command
    response :: m'.run rest

/-! Two adapters share a source, and a callback is attached to one of them twice. -/
example : empty.run [.makeSource "", .makeAdapter 0, .makeAdapter 0, .makeCallback, .on 0 0,
    .on 1 0, .on 0 0, .off 0 0, .record 0 true, .record 0 true, .dispose 1, .poll 0 false, .on 1 0] =
    [⟨.done, []⟩, ⟨.done, []⟩, ⟨.done, []⟩, ⟨.done, []⟩, ⟨.done, []⟩, ⟨.done, []⟩, ⟨.done, []⟩,
      ⟨.flag true, []⟩, ⟨.flag true, [(0, .change ⟨true, none⟩), (0, .change ⟨true, none⟩)]⟩,
      ⟨.flag false, []⟩, ⟨.done, []⟩, ⟨.flag false, [(0, .change ⟨false, none⟩)]⟩,
      ⟨disposedFailure, []⟩] := by
  decide

end Machine
end Hostlink.Network
