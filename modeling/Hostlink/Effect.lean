import Hostlink.Objects

/-!
# Effects on the live objects

Everything that an activity can do to the live objects in one step.  Effects are data, so what
has been done to the objects can be written down and read back.
-/

namespace Hostlink

/-- One indivisible effect on the live objects. -/
inductive Effect where
  /-- Nothing changes; the step only looks. -/
  | look
  | report (event : Log.Event)
  | addFunction
  | addBridged (target : FunctionId) (converter : Converter)
  | addEvent
  | addHandler (event : EventId) (handler : FunctionId)
  | removeHandler (event : EventId) (handler : FunctionId)
  | clearHandlers (event : EventId)
  | addBridge
  | setHook (bridge : BridgeId) (key : MemberKey) (hook : Hook)
  | push (bridge : BridgeId) (key : MemberKey) (entry : Registration)
  | detach (bridge : BridgeId) (key : MemberKey) (caller : FunctionId)
  | drain (bridge : BridgeId)
  | addWrapper (ownership : Ownership) (native : Native)
  | markDisposed (wrapper : WrapperId)
  | markClosed (wrapper : WrapperId)
  | addSource (probeAddress : String)
  | setAvailable (source : SourceId) (available : Bool)
  deriving DecidableEq, Repr

/-- The objects after an effect. -/
def Effect.apply (effect : Effect) (o : Objects) : Objects :=
  match effect with
  | .look => o
  | .report event => o.report event
  | .addFunction => o.addFunction
  | .addBridged target converter => o.addBridged target converter
  | .addEvent => o.addEvent
  | .addHandler e handler => o.modifyEvent e (·.add handler)
  | .removeHandler e handler => o.modifyEvent e (·.remove handler)
  | .clearHandlers e => o.modifyEvent e fun _ => .empty
  | .addBridge => o.addBridge
  | .setHook b key hook => o.modifyTable b (·.setHook key hook)
  | .push b key entry => o.modifyTable b (·.push key entry)
  | .detach b key caller => o.modifyTable b (·.detach key caller)
  | .drain b => o.modifyTable b (·.drained)
  | .addWrapper ownership native => o.addWrapper (.make ownership native)
  | .markDisposed w => o.modifyWrapper w fun w => { w with disposed := true }
  | .markClosed w => o.modifyWrapper w fun w => { w with closed := true }
  | .addSource probeAddress => o.addSource probeAddress
  | .setAvailable s available => o.modifySource s fun source => { source with available }

end Hostlink
