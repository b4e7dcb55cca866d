import Hostlink.Log.Event
import Hostlink.Multicast
import Hostlink.Payload
import Hostlink.Registry
import Hostlink.Wrapper

/-!
# Live objects

The functions, events, bridges, wrappers and status sources that exist, each kind in a registry of
its own, and the log events that operations on them have reported so far.
-/

namespace Hostlink

/-- A function: the caller's code that it ends in, and the conversions before it.  A callback that
a bridge makes converts its argument and then calls the callback it was made for. -/
structure Function where
  endpoint : FunctionId
  converters : List Converter
  deriving DecidableEq, Repr

/-- A native object that watches whether the network can be reached. -/
structure StatusSource where
  probeAddress : String
  available : Bool
  /-- Raised when the availability changes. -/
  changed : EventId
  deriving DecidableEq, Repr

/-- All live objects. -/
structure Objects where
  functions : Registry Function
  events : Registry (Multicast FunctionId)
  bridges : Registry CallbackTable
  wrappers : Registry Wrapper
  sources : Registry StatusSource
  /-- The log events reported so far, the latest first. -/
  notices : List Log.Event

namespace Objects

/-- No objects. -/
def empty : Objects := ⟨.empty, .empty, .empty, .empty, .empty, []⟩

instance : Inhabited Objects := ⟨empty⟩

/-- Reports a log event. -/
def report (o : Objects) (event : Log.Event) : Objects := { o with notices := event :: o.notices }

/-! ## Functions -/

/-- What a function does; an unknown one is the caller's own code. -/
def function (o : Objects) (f : FunctionId) : Function :=
  (o.functions.get? f.index).getD ⟨f, []⟩

/-- The identity that the next function gets. -/
def nextFunction (o : Objects) : FunctionId := ⟨o.functions.next⟩

/-- Adds a function of the caller's own code. -/
def addFunction (o : Objects) : Objects :=
  { o with functions := o.functions.insert ⟨o.nextFunction, []⟩ }

/-- Adds a function that converts its argument and then behaves like `target`. -/
def addBridged (o : Objects) (target : FunctionId) (converter : Converter) : Objects :=
  let target := o.function target
  { o with functions := o.functions.insert ⟨target.endpoint, converter :: target.converters⟩ }

/-! ## Events -/

/-- The handlers of an event. -/
def event (o : Objects) (e : EventId) : Multicast FunctionId :=
  (o.events.get? e.index).getD .empty

/-- Changes the handlers of an event. -/
def modifyEvent (o : Objects) (e : EventId) (f : Multicast FunctionId → Multicast FunctionId) :
    Objects :=
  { o with events := o.events.modify e.index f }

/-- The identity that the next event gets. -/
def nextEvent (o : Objects) : EventId := ⟨o.events.next⟩

/-- Adds an event without handlers. -/
def addEvent (o : Objects) : Objects := { o with events := o.events.insert .empty }

/-! ## Wrappers and bridges -/

/-- A wrapper. -/
def wrapper? (o : Objects) (w : WrapperId) : Option Wrapper := o.wrappers.get? w.index

/-- Changes a wrapper. -/
def modifyWrapper (o : Objects) (w : WrapperId) (f : Wrapper → Wrapper) : Objects :=
  { o with wrappers := o.wrappers.modify w.index f }

/-- The identity that the next wrapper gets. -/
def nextWrapper (o : Objects) : WrapperId := ⟨o.wrappers.next⟩

/-- Adds a wrapper. -/
def addWrapper (o : Objects) (w : Wrapper) : Objects :=
  { o with wrappers := o.wrappers.insert w }

/-- The table of a bridge. -/
def table (o : Objects) (b : BridgeId) : CallbackTable :=
  match b with
  | .standalone index => (o.bridges.get? index).getD .empty
  | .ofWrapper w => ((o.wrapper? w).map (·.callbacks)).getD .empty

/-- Changes the table of a bridge. -/
def modifyTable (o : Objects) (b : BridgeId) (f : CallbackTable → CallbackTable) : Objects :=
  match b with
  | .standalone index => { o with bridges := o.bridges.modify index f }
  | .ofWrapper w => o.modifyWrapper w fun w => { w with callbacks := f w.callbacks }

/-- The identity that the next bridge of its own gets. -/
def nextBridge (o : Objects) : BridgeId := .standalone o.bridges.next

/-- Adds a bridge without members. -/
def addBridge (o : Objects) : Objects := { o with bridges := o.bridges.insert .empty }

/-! ## Status sources -/

/-- A status source. -/
def source? (o : Objects) (s : SourceId) : Option StatusSource := o.sources.get? s.index

/-- Changes a status source. -/
def modifySource (o : Objects) (s : SourceId) (f : StatusSource → StatusSource) : Objects :=
  { o with sources := o.sources.modify s.index f }

/-- The identity that the next status source gets. -/
def nextSource (o : Objects) : SourceId := ⟨o.sources.next⟩

/-- Adds a source that has seen nothing yet, with an event of its own. -/
def addSource (o : Objects) (probeAddress : String) : Objects :=
  let changed := o.nextEvent
  let o := o.addEvent
  { o with sources := o.sources.insert ⟨probeAddress, false, changed⟩ }

end Objects
end Hostlink
