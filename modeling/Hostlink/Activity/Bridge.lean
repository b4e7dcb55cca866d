import Hostlink.Activity.Event

/-!
# Callback bridges

The operations on the table of a bridge.  Each one works on the table in a single section under
the table's lock.  Attaching registers the new native callback with the native object inside that
section; unregistering happens after it, one hook at a time, so a hook may use the bridge again.
-/

namespace Hostlink

variable {σ : Type}

/-- The target of the log events about bridges. -/
def bridgeTarget : String := "core_interop::bridge"

/-- A log event about a bridge. -/
def bridgeNotice (message : String) (fields : List Log.Field) : Log.Event :=
  .notice .debug bridgeTarget message fields

/-- How a native callback is registered with the native object. -/
inductive Registrar where
  /-- It is added to an event. -/
  | addTo (event : EventId)
  /-- The caller's own code with this number does it. -/
  | client (code : Nat)
  deriving DecidableEq, Repr

/-- Registers a native callback with its native object. -/
def Registrar.run (registrar : Registrar) (native : FunctionId) : Activity σ Unit :=
  match registrar with
  | .addTo event => event.add native
  | .client code => Activity.upcall (.register code native)

/-- Removes a native callback from its native object. -/
def Hook.run (hook : Hook) (native : FunctionId) : Activity σ Unit :=
  match hook with
  | .removeFrom event => do let _ ← event.remove native
  | .client code => Activity.upcall (.unregister code native)

/-- Hands every callback of a batch to the hook, if there is one. -/
def Batch.unregister (batch : Batch) : Activity σ Unit :=
  match batch.hook with
  | none => .done ()
  | some hook => Activity.forEach batch.natives hook.run

namespace BridgeId

/-- Makes a bridge of its own. -/
def make : Activity σ BridgeId := Activity.exchange (·.nextBridge) .addBridge

/-- Runs a section on the table; the result is what `f` sees before the change. -/
def onTable {α : Type} (b : BridgeId) (f : CallbackTable → α) (effect : Effect) : Activity σ α :=
  Activity.locked (.table b) (fun o => f (o.table b)) effect

/-- Looks at the table. -/
def view {α : Type} (b : BridgeId) (f : CallbackTable → α) : Activity σ α := b.onTable f .look

/-- Records how the native callbacks of a member are unregistered. -/
def registerMember (b : BridgeId) (key : MemberKey) (hook : Hook) : Activity σ Unit :=
  b.onTable (fun _ => ()) (.setHook b key hook)

/-- Makes the native callback that converts its argument and calls `callback`. -/
def synthesize (callback : FunctionId) (converter : Converter) : Activity σ FunctionId :=
  Activity.exchange (·.nextFunction) (.addBridged callback converter)

/-- Makes a native callback for `callback`, registers it with the native object and records it.
Fails, without registering anything, once the bridge has been released. -/
def attach (b : BridgeId) (key : MemberKey) (callback : FunctionId) (converter : Converter)
    (registrar : Registrar) : Activity σ (Except HostError FunctionId) := do
  let native ← synthesize callback converter
  Activity.take (.table b)
  let released ← Activity.inspect fun o => (o.table b).released
  if released then
    Activity.report (bridgeNotice "Attach rejected on released bridge" [⟨"member", .text key.name⟩])
    Activity.give (.table b)
    return .error (.objectDisposed "CallbackBridge")
  else
    registrar.run native
    Activity.update (.push b key ⟨callback, native⟩)
    let registrations ← Activity.inspect fun o => ((o.table b).entries key).length
    Activity.report (bridgeNotice "Attached callback"
      [⟨"member", .text key.name⟩, ⟨"registrations", .int registrations⟩])
    Activity.give (.table b)
    return .ok native

/-- Takes away the earliest registration of `callback`; the result is the native callback that
has to be unregistered. -/
def tryDetach (b : BridgeId) (key : MemberKey) (callback : FunctionId) :
    Activity σ (Option FunctionId) := do
  let (known, found, count) ← b.onTable
    (fun t => ((t.member? key).isSome, t.first? key callback, (t.entries key).length))
    (.detach b key callback)
  match found with
  | some entry =>
    Activity.report (bridgeNotice "Detached callback"
      [⟨"member", .text key.name⟩, ⟨"registrations", .int (count - 1 : Nat)⟩])
    return some entry.native
  | none =>
    if known then
      Activity.report (bridgeNotice "Detach requested for unknown callback"
        [⟨"member", .text key.name⟩])
    return none

/-- Takes all registrations out of the table, refuses further ones for ever, and unregisters what
was taken.  The result is the number of registrations released. -/
def releaseAll (b : BridgeId) : Activity σ Nat := do
  let batches ← b.onTable (·.batches) (.drain b)
  Activity.forEach batches fun batch => batch.unregister
  let released : Nat := (batches.flatMap (·.natives)).length
  if 0 < released then
    Activity.report (bridgeNotice "Released bridged callbacks" [⟨"released", .int released⟩])
  return released

/-! ## Views -/

/-- The number of registrations under a name. -/
def len (b : BridgeId) (name : String) : Activity σ Nat := b.view (·.len name)

/-- The number of all registrations. -/
def totalLen (b : BridgeId) : Activity σ Nat := b.view (·.totalLen)

/-- Whether there are no registrations. -/
def isEmpty (b : BridgeId) : Activity σ Bool := b.view (·.totalLen = 0)

/-- Whether the bridge has been released. -/
def isReleased (b : BridgeId) : Activity σ Bool := b.view (·.released)

/-- The bridge for diagnosis. -/
def shown (b : BridgeId) : Activity σ Text.Diagnostic := b.view (·.shown)

end BridgeId
end Hostlink
