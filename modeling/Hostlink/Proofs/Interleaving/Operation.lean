import Hostlink.Activity.Wrapper

/-!
# Operations of the library

What a client can ask the library for, as data.  Each operation is performed by one activity; the
answers of all operations are gathered in one type.

A client can only name objects that exist, because it gets their identities from the library:
`Operation.Valid` says so.
-/

namespace Hostlink

variable {σ : Type}

/-- Detaches one attachment of a callback and removes its native callback from an event; tells
whether the event had it. -/
def BridgeId.detachFrom (b : BridgeId) (key : MemberKey) (callback : FunctionId) (event : EventId) :
    Activity σ Bool := do
  let found ← b.tryDetach key callback
  match found with
  | none => return false
  | some native => event.remove native

/-- An operation of the library on the live objects. -/
inductive Operation where
  | makeFunction
  | invoke (f : FunctionId) (argument : Payload)
  | makeEvent
  | add (e : EventId) (handler : FunctionId)
  | remove (e : EventId) (handler : FunctionId)
  | raise (e : EventId) (argument : Payload)
  | count (e : EventId)
  | clear (e : EventId)
  | makeBridge
  | registerMember (b : BridgeId) (key : MemberKey) (hook : Hook)
  | attach (b : BridgeId) (key : MemberKey) (callback : FunctionId) (converter : Converter)
      (registrar : Registrar)
  | tryDetach (b : BridgeId) (key : MemberKey) (callback : FunctionId)
  | detachFrom (b : BridgeId) (key : MemberKey) (callback : FunctionId) (e : EventId)
  | releaseAll (b : BridgeId)
  | len (b : BridgeId) (name : String)
  | totalLen (b : BridgeId)
  | isEmpty (b : BridgeId)
  | isReleased (b : BridgeId)
  | showBridge (b : BridgeId)
  | makeWrapper (ownership : Ownership) (native : Native)
  | dispose (w : WrapperId)
  | drop (w : WrapperId)
  | isDisposed (w : WrapperId)
  | ensureLive (w : WrapperId)
  deriving DecidableEq, Repr

/-- What an operation can answer. -/
inductive Answer where
  | nothing
  | flag (value : Bool)
  | number (value : Nat)
  | function (f : FunctionId)
  | event (e : EventId)
  | bridge (b : BridgeId)
  | wrapper (w : WrapperId)
  | attached (result : Except HostError FunctionId)
  | detached (native : Option FunctionId)
  | finished (result : Except HostError Unit)
  | shown (value : Text.Diagnostic)

/-- An activity with its result turned into an answer. -/
def Activity.answering {α : Type} (f : α → Answer) (a : Activity σ α) : Activity σ Answer :=
  a.bind fun result => .done (f result)

namespace Operation

/-- How an operation is performed. -/
def activity : Operation → Activity σ Answer
  | .makeFunction => FunctionId.make.answering .function
  | .invoke f argument => (f.invoke argument).answering fun _ => .nothing
  | .makeEvent => EventId.make.answering .event
  | .add e handler => (e.add handler).answering fun _ => .nothing
  | .remove e handler => (e.remove handler).answering .flag
  | .raise e argument => (e.raise argument).answering .number
  | .count e => e.count.answering .number
  | .clear e => e.clear.answering fun _ => .nothing
  | .makeBridge => BridgeId.make.answering .bridge
  | .registerMember b key hook => (b.registerMember key hook).answering fun _ => .nothing
  | .attach b key callback converter registrar =>
    (b.attach key callback converter registrar).answering .attached
  | .tryDetach b key callback => (b.tryDetach key callback).answering .detached
  | .detachFrom b key callback e => (b.detachFrom key callback e).answering .flag
  | .releaseAll b => b.releaseAll.answering .number
  | .len b name => (b.len name).answering .number
  | .totalLen b => b.totalLen.answering .number
  | .isEmpty b => b.isEmpty.answering .flag
  | .isReleased b => b.isReleased.answering .flag
  | .showBridge b => b.shown.answering .shown
  | .makeWrapper ownership native => (WrapperId.make ownership native).answering .wrapper
  | .dispose w => w.dispose.answering .finished
  | .drop w => w.drop.answering fun _ => .nothing
  | .isDisposed w => w.isDisposed.answering .flag
  | .ensureLive w => w.ensureLive.answering .finished

end Operation

/-! ## Existing objects -/

namespace Objects

/-- Whether a function exists. -/
def HasFunction (o : Objects) (f : FunctionId) : Prop := f.index < o.functions.next

/-- Whether an event exists. -/
def HasEvent (o : Objects) (e : EventId) : Prop := e.index < o.events.next

/-- Whether a wrapper exists. -/
def HasWrapper (o : Objects) (w : WrapperId) : Prop := w.index < o.wrappers.next

/-- Whether a bridge exists: one of its own, or that of a wrapper that exists. -/
def HasBridge (o : Objects) : BridgeId → Prop
  | .standalone index => index < o.bridges.next
  | .ofWrapper w => o.HasWrapper w

end Objects

/-- Whether the objects exist that a registrar uses. -/
def Registrar.Valid (o : Objects) : Registrar → Prop
  | .addTo e => o.HasEvent e
  | .client _ => True

/-- Whether the objects exist that an operation names. -/
def Operation.Valid (o : Objects) : Operation → Prop
  | .makeFunction | .makeEvent | .makeBridge | .makeWrapper _ _ => True
  | .invoke f _ => o.HasFunction f
  | .add e handler | .remove e handler => o.HasEvent e ∧ o.HasFunction handler
  | .raise e _ | .count e | .clear e => o.HasEvent e
  | .registerMember b _ _ | .releaseAll b | .len b _ | .totalLen b | .isEmpty b | .isReleased b
  | .showBridge b => o.HasBridge b
  | .attach b _ callback _ registrar =>
    o.HasBridge b ∧ o.HasFunction callback ∧ registrar.Valid o
  | .tryDetach b _ callback => o.HasBridge b ∧ o.HasFunction callback
  | .detachFrom b _ callback e => o.HasBridge b ∧ o.HasFunction callback ∧ o.HasEvent e
  | .dispose w | .drop w | .isDisposed w | .ensureLive w => o.HasWrapper w

/-! ## Objects never vanish -/

namespace Effect

theorem next_functions_le (effect : Effect) (o : Objects) :
    o.functions.next ≤ (effect.apply o).functions.next := by
  cases effect
  case addFunction => simp [apply, Objects.addFunction]
  case addBridged => simp [apply, Objects.addBridged]
  case setHook b _ _ | push b _ _ | detach b _ _ | drain b => cases b <;> exact Nat.le_refl _
  all_goals exact Nat.le_refl _

theorem next_events_le (effect : Effect) (o : Objects) :
    o.events.next ≤ (effect.apply o).events.next := by
  cases effect
  case addEvent => simp [apply, Objects.addEvent]
  case addSource => simp [apply, Objects.addSource, Objects.addEvent]
  case addHandler | removeHandler | clearHandlers => simp [apply, Objects.modifyEvent]
  case setHook b _ _ | push b _ _ | detach b _ _ | drain b => cases b <;> exact Nat.le_refl _
  all_goals exact Nat.le_refl _

theorem next_bridges_le (effect : Effect) (o : Objects) :
    o.bridges.next ≤ (effect.apply o).bridges.next := by
  cases effect
  case addBridge => simp [apply, Objects.addBridge]
  case setHook b _ _ | push b _ _ | detach b _ _ | drain b =>
    cases b <;> simp [apply, Objects.modifyTable, Objects.modifyWrapper]
  all_goals exact Nat.le_refl _

theorem next_wrappers_le (effect : Effect) (o : Objects) :
    o.wrappers.next ≤ (effect.apply o).wrappers.next := by
  cases effect
  case addWrapper => simp [apply, Objects.addWrapper]
  case markDisposed | markClosed => simp [apply, Objects.modifyWrapper]
  case setHook b _ _ | push b _ _ | detach b _ _ | drain b =>
    cases b <;> simp [apply, Objects.modifyTable, Objects.modifyWrapper]
  all_goals exact Nat.le_refl _

theorem hasFunction {effect : Effect} {o : Objects} {f : FunctionId} (h : o.HasFunction f) :
    (effect.apply o).HasFunction f :=
  Nat.lt_of_lt_of_le h (effect.next_functions_le o)

theorem hasEvent {effect : Effect} {o : Objects} {e : EventId} (h : o.HasEvent e) :
    (effect.apply o).HasEvent e :=
  Nat.lt_of_lt_of_le h (effect.next_events_le o)

theorem hasWrapper {effect : Effect} {o : Objects} {w : WrapperId} (h : o.HasWrapper w) :
    (effect.apply o).HasWrapper w :=
  Nat.lt_of_lt_of_le h (effect.next_wrappers_le o)

theorem hasBridge {effect : Effect} {o : Objects} {b : BridgeId} (h : o.HasBridge b) :
    (effect.apply o).HasBridge b := by
  cases b with
  | standalone index => exact Nat.lt_of_lt_of_le h (effect.next_bridges_le o)
  | ofWrapper w => exact hasWrapper h

/-- An operation stays valid, whatever happens to the objects. -/
theorem valid {effect : Effect} {o : Objects} {op : Operation} (h : op.Valid o) :
    op.Valid (effect.apply o) := by
  cases op
  case makeFunction | makeEvent | makeBridge | makeWrapper => trivial
  case invoke => exact hasFunction h
  case add | remove => exact ⟨hasEvent h.1, hasFunction h.2⟩
  case raise | count | clear => exact hasEvent h
  case registerMember | releaseAll | len | totalLen | isEmpty | isReleased | showBridge =>
    exact hasBridge h
  case attach registrar =>
    refine ⟨hasBridge h.1, hasFunction h.2.1, ?_⟩
    cases registrar with
    | addTo e => exact hasEvent h.2.2
    | client code => trivial
  case tryDetach => exact ⟨hasBridge h.1, hasFunction h.2⟩
  case detachFrom => exact ⟨hasBridge h.1, hasFunction h.2.1, hasEvent h.2.2⟩
  case dispose | drop | isDisposed | ensureLive => exact hasWrapper h

end Effect
end Hostlink
