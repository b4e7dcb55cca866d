import Hostlink.Activity.Basic

/-!
# Events

The operations on a multicast event.  Raising takes a copy of the handlers in one section and then
calls them without a lock, so a handler may add and remove handlers while it runs.
-/

namespace Hostlink

variable {σ : Type}

/-- Converts an argument.  An observation outside the calendar cannot be handed on. -/
def Converter.apply (converter : Converter) (argument : Payload) : Activity σ Payload :=
  match converter with
  | .client code => Activity.upcall (.convert code argument)
  | .availability =>
    match argument with
    | .status value =>
      match value.at? with
      | some t => if t.inCalendar then .done (.change value) else .panicked "No such local time"
      | none => .done (.change value)
    | other => .done other

/-- Converts an argument by several converters, the first one first. -/
def convertThrough (converters : List Converter) (argument : Payload) : Activity σ Payload :=
  match converters with
  | [] => .done argument
  | converter :: rest => (converter.apply argument).bind (convertThrough rest)

/-- Calls a function. -/
def FunctionId.invoke (f : FunctionId) (argument : Payload) : Activity σ Unit := do
  let function ← Activity.inspect fun o => o.function f
  let argument ← convertThrough function.converters argument
  Activity.upcall (.invoke function.endpoint argument)

namespace EventId

/-- Makes an event. -/
def make : Activity σ EventId := Activity.exchange (·.nextEvent) .addEvent

/-- Adds a handler. -/
def add (e : EventId) (handler : FunctionId) : Activity σ Unit :=
  Activity.locked (.handlers e) (fun _ => ()) (.addHandler e handler)

/-- Removes the occurrence of a handler that was added last; tells whether there was one. -/
def remove (e : EventId) (handler : FunctionId) : Activity σ Bool :=
  Activity.locked (.handlers e) (fun o => (o.event e).contains handler) (.removeHandler e handler)

/-- Calls every handler that is registered now, in order; the result is their number. -/
def raise (e : EventId) (argument : Payload) : Activity σ Nat := do
  let handlers ← Activity.locked (.handlers e) (fun o => (o.event e).handlers) .look
  Activity.forEach handlers fun handler => handler.invoke argument
  return handlers.length

/-- The number of handlers. -/
def count (e : EventId) : Activity σ Nat :=
  Activity.locked (.handlers e) (fun o => (o.event e).count) .look

/-- Removes all handlers. -/
def clear (e : EventId) : Activity σ Unit :=
  Activity.locked (.handlers e) (fun _ => ()) (.clearHandlers e)

/-- The event for diagnosis. -/
def shown (e : EventId) : Activity σ Text.Diagnostic := do
  let count ← e.count
  return .record "MulticastEvent" [("handlers", .nat count)]

end EventId

/-- Makes a function of the client's own code. -/
def FunctionId.make : Activity σ FunctionId :=
  Activity.exchange (·.nextFunction) .addFunction

end Hostlink
