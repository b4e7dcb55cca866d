import Hostlink.Activity.Wrapper
import Hostlink.Conversion

/-!
# Network availability

A status source remembers whether the network could be reached when it last looked, and raises an
event when that changes.  An adapter lets callers attach callbacks to the event of a source.  Its
registrations are its own: when it is disposed of or dropped, exactly the callbacks attached
through it are removed, and other users of the source notice nothing.

Whether an address can be reached is a question to the outside; `Reachability` stands for the
answer.
-/

namespace Hostlink

variable {σ : Type}

/-- Which addresses accept a connection. -/
abbrev Reachability := String → Bool

namespace SourceId

/-- The type of the native objects that are status sources. -/
def typeName : String := "bridge_desktop::network::NetworkStatusSource"

/-- The target of the log events about sources. -/
def logTarget : String := "bridge_desktop::network"

/-- The address that is probed unless another one is given. -/
def defaultProbeAddress : String := "8.8.8.8:53"

/-- A source as a native object. -/
def native (s : SourceId) : Native := ⟨typeName, s.index⟩

/-- Makes a source that has seen nothing yet. -/
def make (probeAddress : String) : Activity σ SourceId :=
  Activity.exchange (·.nextSource) (.addSource probeAddress)

/-- Looks at a source that exists. -/
def view {α : Type} (s : SourceId) (default : α) (f : StatusSource → α) : Activity σ α :=
  Activity.inspect fun o => ((o.source? s).map f).getD default

/-- The event of the source. -/
def changed (s : SourceId) : Activity σ EventId := s.view ⟨0⟩ (·.changed)

/-- The last observation. -/
def isAvailable (s : SourceId) : Activity σ Bool := s.view false (·.available)

/-- The address that is probed. -/
def probeAddress (s : SourceId) : Activity σ String := s.view "" (·.probeAddress)

/-- Looks whether the network can be reached, without recording the answer. -/
def probe (reachable : Reachability) (s : SourceId) : Activity σ Bool := do
  let address ← s.probeAddress
  return reachable address

/-- Records an observation, and raises the event if it differs from the one before; tells whether
it does. -/
def record (s : SourceId) (available : Bool) : Activity σ Bool := do
  let previous ← Activity.exchange
    (fun o => ((o.source? s).map (·.available)).getD available)
    (.setAvailable s available)
  if previous = available then return false
  else
    let event ← s.changed
    let handlers ← event.raise (.status ⟨available, none⟩)
    Activity.report (.notice .debug logTarget "Network availability changed"
      [⟨"available", .bool available⟩, ⟨"handlers", .int handlers⟩])
    return true

/-- Probes and records the answer. -/
def refresh (reachable : Reachability) (s : SourceId) : Activity σ Bool := do
  let available ← s.probe reachable
  let _ ← s.record available
  return available

end SourceId

/-- An adapter over a status source. -/
structure NetworkAdapter where
  wrapper : WrapperId
  source : SourceId
  deriving DecidableEq, Repr

namespace NetworkAdapter

/-- The member of an adapter: callers receive changes, the source reports observations. -/
def availabilityChanged : MemberKey := ⟨"availability_changed", .change, .status⟩

/-- Makes an adapter over a source. -/
def ofSource (source : SourceId) : Activity σ NetworkAdapter := do
  let wrapper ← WrapperId.make .borrowed source.native
  let event ← source.changed
  (BridgeId.ofWrapper wrapper).registerMember availabilityChanged (.removeFrom event)
  return ⟨wrapper, source⟩

/-- The bridge of the adapter. -/
def bridge (a : NetworkAdapter) : BridgeId := .ofWrapper a.wrapper

/-- The last observation of the source. -/
def isAvailable (a : NetworkAdapter) : Activity σ Bool := a.source.isAvailable

/-- Attaches a callback. -/
def on (a : NetworkAdapter) (callback : FunctionId) : Activity σ (Except HostError Unit) := do
  let live ← a.wrapper.ensureLive
  match live with
  | .error e => return .error e
  | .ok _ =>
    let event ← a.source.changed
    let result ← a.bridge.attach availabilityChanged callback .availability (.addTo event)
    return result.map fun _ => ()

/-- Detaches one attachment of a callback; tells whether there was one. -/
def off (a : NetworkAdapter) (callback : FunctionId) : Activity σ Bool := do
  let found ← a.bridge.tryDetach availabilityChanged callback
  match found with
  | none => return false
  | some native =>
    let event ← a.source.changed
    event.remove native

/-- Probes the network once. -/
def poll (reachable : Reachability) (a : NetworkAdapter) : Activity σ (Except HostError Bool) := do
  let live ← a.wrapper.ensureLive
  match live with
  | .error e => return .error e
  | .ok _ => .ok <$> a.source.refresh reachable

/-- Detaches every callback attached through this adapter. -/
def dispose (a : NetworkAdapter) : Activity σ (Except HostError Unit) := a.wrapper.dispose

/-- Disposes of the adapter for the last time. -/
def drop (a : NetworkAdapter) : Activity σ Unit := a.wrapper.drop

/-- The adapter as an interface value: it exposes its source. -/
def adapter (a : NetworkAdapter) : Adapter := (Wrapper.borrowed a.source.native).adapter

end NetworkAdapter
end Hostlink
