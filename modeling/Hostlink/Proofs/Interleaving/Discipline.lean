import Hostlink.Proofs.Interleaving.Contract

/-!
# What operations do

`Operation.Effects` and `Operation.Asks` say for every effect and every call of the client which
operations can cause it.  Every operation changes a guarded part only while it has the lock of that
part, and has given all its locks free when it returns.

`Abides` follows an activity with both in view; `keeps_abiding` is the result for all operations.
-/

namespace Hostlink

namespace Operation

/-- The operations that dispose of a wrapper. -/
def Disposes (op : Operation) (w : WrapperId) : Prop := op = .dispose w ∨ op = .drop w

instance (op : Operation) (w : WrapperId) : Decidable (op.Disposes w) :=
  inferInstanceAs (Decidable (op = .dispose w ∨ op = .drop w))

/-- The operations that release a bridge. -/
def Releases (op : Operation) (b : BridgeId) : Prop :=
  op = .releaseAll b ∨ ∃ w, b = .ofWrapper w ∧ op.Disposes w

/-- The effects that an operation can have. -/
def Effects (op : Operation) : Effect → Prop
  | .look | .report _ => True
  | .addFunction => op = .makeFunction
  | .addBridged target converter =>
    ∃ b key registrar, op = .attach b key target converter registrar
  | .addEvent => op = .makeEvent
  | .addHandler e handler =>
    op = .add e handler ∨ ∃ b key callback converter, op = .attach b key callback converter (.addTo e)
  | .removeHandler e handler =>
    op = .remove e handler ∨ (∃ b key callback, op = .detachFrom b key callback e) ∨
      ∃ b, op.Releases b
  | .clearHandlers e => op = .clear e
  | .addBridge => op = .makeBridge
  | .setHook b key hook => op = .registerMember b key hook
  | .push b key entry => ∃ converter registrar, op = .attach b key entry.caller converter registrar
  | .detach b key caller => op = .tryDetach b key caller ∨ ∃ e, op = .detachFrom b key caller e
  | .drain b => op.Releases b
  | .addWrapper ownership native => op = .makeWrapper ownership native
  | .markDisposed w | .markClosed w => op.Disposes w
  | .addSource _ | .setAvailable _ _ => False

/-- The calls of the client that an operation can make. -/
def Asks (op : Operation) : Upcall → Prop
  | .invoke _ _ | .convert _ _ =>
    (∃ f argument, op = .invoke f argument) ∨ ∃ e argument, op = .raise e argument
  | .register code _ => ∃ b key callback converter, op = .attach b key callback converter (.client code)
  | .unregister _ _ => ∃ b, op.Releases b
  | .close _ => ∃ w, op.Disposes w

end Operation

namespace Interleaving

variable {α β : Type}

/-- The contract of all operations: each does only what is its own, changes happen under their
lock, and a call returns without locks. -/
def abiding : Contract := fun x log =>
  match x.deed with
  | .did effect =>
    x.operation.Effects effect ∧ ∀ lock, effect.lock? = some lock → lock ∈ held log
  | .asked upcall => x.operation.Asks upcall
  | .returned _ => held log = []
  | _ => True

/-- Whether an activity that has the locks `before` does only what `op` may do, changes only what
its locks guard, and ends with the locks `after`. -/
def Abides (op : Operation) (before after : List Lock) : Activity Unit α → Prop
  | .done _ => before = after
  | .panicked _ => True
  | .step effect next =>
    (op.Effects effect ∧ ∀ lock, effect.lock? = some lock → lock ∈ before) ∧
      ∀ o, Abides op before after (next o)
  | .own _ _ => False
  | .acquire lock next => Abides op (lock :: before) after next
  | .release lock next => Abides op (before.erase lock) after next
  | .call upcall next => op.Asks upcall ∧ ∀ reply, Abides op before after (next reply)

namespace Abides

variable {op : Operation}

theorem bind {before middle after : List Lock} {a : Activity Unit α} {f : α → Activity Unit β}
    (ha : Abides op before middle a) (hf : ∀ result, Abides op middle after (f result)) :
    Abides op before after (a.bind f) := by
  induction a generalizing before with
  | done result =>
    rw [show before = middle from ha]
    exact hf result
  | panicked message => trivial
  | step effect next ih => exact ⟨ha.1, fun o => ih o (ha.2 o)⟩
  | own change next ih => exact ha
  | acquire lock next ih => exact ih ha
  | release lock next ih => exact ih ha
  | call upcall next ih => exact ⟨ha.1, fun reply => ih reply (ha.2 reply)⟩

theorem forEach {locks : List Lock} {xs : List α} {f : α → Activity Unit Unit}
    (hf : ∀ x, Abides op locks locks (f x)) : Abides op locks locks (Activity.forEach xs f) := by
  induction xs with
  | nil => rfl
  | cons x rest ih => exact bind (hf x) fun _ => ih

/-- A section under a lock of its own that changes what the lock guards. -/
theorem locked {locks : List Lock} {lock : Lock} {effect : Effect} (heffect : op.Effects effect)
    (hlock : effect.lock? = some lock) (f : Objects → α) :
    Abides op locks locks (Activity.locked lock f effect) := by
  refine ⟨⟨heffect, fun other hother => ?_⟩, fun o => List.erase_cons_head lock locks⟩
  rw [hlock] at hother
  rw [← Option.some.inj hother]
  exact List.mem_cons_self

/-- A section under a lock that only looks. -/
theorem locked_look {locks : List Lock} {lock : Lock} (f : Objects → α) :
    Abides op locks locks (Activity.locked lock f .look) := by
  refine ⟨⟨trivial, fun other hother => ?_⟩, fun o => List.erase_cons_head lock locks⟩
  cases hother

/-- A step that changes nothing guarded. -/
theorem exchange {locks : List Lock} {effect : Effect} (heffect : op.Effects effect)
    (hlock : effect.lock? = none) (f : Objects → α) :
    Abides op locks locks (Activity.exchange f effect) := by
  refine ⟨⟨heffect, fun lock hother => ?_⟩, fun _ => rfl⟩
  rw [hlock] at hother
  cases hother

/-- A change under the lock that was taken last. -/
theorem update {locks : List Lock} {lock : Lock} {effect : Effect} (heffect : op.Effects effect)
    (hlock : effect.lock? = some lock) :
    Abides op (lock :: locks) (lock :: locks) (Activity.update effect) := by
  refine ⟨⟨heffect, fun other hother => ?_⟩, fun _ => rfl⟩
  rw [hlock] at hother
  rw [← Option.some.inj hother]
  exact List.mem_cons_self

theorem inspect {locks : List Lock} (f : Objects → α) :
    Abides op locks locks (Activity.inspect f) :=
  exchange (by exact trivial) rfl f

theorem report {locks : List Lock} (event : Log.Event) :
    Abides op locks locks (Activity.report event) :=
  exchange (by exact trivial) rfl fun _ => ()

theorem upcall {locks : List Lock} {r : Upcall} (hr : op.Asks r) :
    Abides op locks locks (Activity.upcall r) :=
  ⟨hr, fun _ => rfl⟩

theorem conforms {call : Nat} {before after : List Lock} {a : Activity Unit α}
    (ha : Abides op before after a) {log : History} (hlog : held log = before) :
    Conforms abiding call op (fun _ log' => held log' = after) a log := by
  induction a generalizing before log with
  | done result => exact hlog.trans ha
  | panicked message => exact fun _ => trivial
  | step effect next ih =>
    refine fun o _ => ⟨⟨ha.1.1, ?_⟩, ih o (ha.2 o) hlog⟩
    intro lock hlock
    rw [hlog]
    exact ha.1.2 lock hlock
  | own change next ih => exact ha
  | acquire lock next ih => exact fun o _ => ⟨trivial, ih ha (by rw [held, hlog])⟩
  | release lock next ih => exact fun o _ => ⟨trivial, ih ha (by rw [held, hlog])⟩
  | call r next ih =>
    refine fun o _ => ⟨ha.1, ?_, fun message o' _ => ⟨trivial, fun _ => trivial⟩⟩
    exact fun reply o' _ => ⟨trivial, ih reply (ha.2 reply) hlog⟩

end Abides

/-! ## Every operation abides -/

section

variable {op : Operation} {locks : List Lock}

theorem abides_converter_apply (h : ∀ code argument, op.Asks (.convert code argument))
    (converter : Converter) (argument : Payload) :
    Abides op locks locks (converter.apply argument) := by
  cases converter with
  | client code => exact .upcall (h code argument)
  | availability =>
    cases argument with
    | status value =>
      unfold Converter.apply
      dsimp only
      split
      · split
        · rfl
        · trivial
      · rfl
    | int | text | change => rfl

theorem abides_convertThrough (h : ∀ code argument, op.Asks (.convert code argument))
    (converters : List Converter) (argument : Payload) :
    Abides op locks locks (convertThrough converters argument) := by
  induction converters generalizing argument with
  | nil => rfl
  | cons converter rest ih => exact .bind (abides_converter_apply h converter argument) ih

theorem abides_invoke (h : ∀ code argument, op.Asks (.convert code argument))
    (h' : ∀ f argument, op.Asks (.invoke f argument)) (f : FunctionId) (argument : Payload) :
    Abides op locks locks (f.invoke argument) := by
  refine .bind (.inspect _) fun function => ?_
  refine .bind (abides_convertThrough h _ _) fun argument => ?_
  exact .upcall (h' _ _)

theorem abides_add {e : EventId} {handler : FunctionId} (h : op.Effects (.addHandler e handler)) :
    Abides op locks locks (e.add handler) :=
  .locked h rfl _

theorem abides_remove {e : EventId} {handler : FunctionId}
    (h : op.Effects (.removeHandler e handler)) : Abides op locks locks (e.remove handler) :=
  .locked h rfl _

theorem abides_raise (e : EventId) (argument : Payload) :
    Abides (.raise e argument) locks locks (e.raise argument) := by
  refine .bind (.locked_look _) fun handlers => ?_
  refine .bind (.forEach fun handler => ?_) fun _ => rfl
  exact abides_invoke (fun _ _ => Or.inr ⟨e, argument, rfl⟩) (fun _ _ => Or.inr ⟨e, argument, rfl⟩) _ _

theorem abides_attach (b : BridgeId) (key : MemberKey) (callback : FunctionId)
    (converter : Converter) (registrar : Registrar) :
    Abides (.attach b key callback converter registrar) locks locks
      (b.attach key callback converter registrar) := by
  refine .bind (.exchange (by exact ⟨b, key, registrar, rfl⟩) rfl _) fun native => ?_
  refine .bind (show Abides _ locks (.table b :: locks) _ from rfl) fun _ => ?_
  refine .bind (.inspect _) fun released => ?_
  have hgive : ∀ result : Except HostError FunctionId,
      Abides (.attach b key callback converter registrar) (.table b :: locks) locks
        ((Activity.give (.table b)).bind fun _ => .done result) :=
    fun _ => List.erase_cons_head _ _
  have hregister : Abides (.attach b key callback converter registrar) (.table b :: locks)
      (.table b :: locks) (registrar.run native) := by
    cases registrar with
    | addTo e => exact abides_add (Or.inr ⟨b, key, callback, converter, rfl⟩)
    | client code => exact .upcall ⟨b, key, callback, converter, rfl⟩
  split
  · exact .bind (.report _) fun _ => hgive _
  · refine .bind hregister fun _ => ?_
    refine .bind (.update (by exact ⟨converter, registrar, rfl⟩) rfl) fun _ => ?_
    refine .bind (.inspect _) fun registrations => ?_
    exact .bind (.report _) fun _ => hgive _

theorem abides_tryDetach {b : BridgeId} {key : MemberKey} {callback : FunctionId}
    (h : op.Effects (.detach b key callback)) :
    Abides op locks locks (b.tryDetach key callback) := by
  refine .bind (.locked h rfl _) fun seen => ?_
  obtain ⟨known, found, count⟩ := seen
  cases found with
  | some entry => exact .bind (.report _) fun _ => rfl
  | none =>
    cases known with
    | true => exact .bind (.report _) fun _ => rfl
    | false => rfl

theorem abides_detachFrom (b : BridgeId) (key : MemberKey) (callback : FunctionId) (e : EventId) :
    Abides (.detachFrom b key callback e) locks locks (b.detachFrom key callback e) := by
  refine .bind (abides_tryDetach (Or.inr ⟨e, rfl⟩)) fun found => ?_
  cases found with
  | none => rfl
  | some native => exact abides_remove (Or.inr (Or.inl ⟨b, key, callback, rfl⟩))

theorem abides_hook_run {b : BridgeId} (h : op.Releases b) (hook : Hook) (native : FunctionId) :
    Abides op locks locks (hook.run native) := by
  cases hook with
  | removeFrom e => exact .bind (abides_remove (Or.inr (Or.inr ⟨b, h⟩))) fun _ => rfl
  | client code => exact .upcall ⟨b, h⟩

theorem abides_releaseAll {b : BridgeId} (h : op.Releases b) :
    Abides op locks locks b.releaseAll := by
  refine .bind (.locked (by exact h) rfl _) fun batches => ?_
  refine .bind (.forEach fun batch => ?_) fun _ => ?_
  · unfold Batch.unregister
    split
    · rfl
    · exact .forEach fun native => abides_hook_run h _ native
  · dsimp only
    split
    · exact .bind (.report _) fun _ => rfl
    · rfl

theorem abides_closeNative {w : WrapperId} (h : op.Disposes w) :
    Abides op locks locks w.closeNative := by
  refine .bind (.inspect _) fun wrapper? => ?_
  cases wrapper? with
  | none => rfl
  | some wrapper =>
    have hgive : ∀ result : Except HostError Unit, Abides op (.closing w :: locks) locks
        ((Activity.give (.closing w)).bind fun _ => .done result) :=
      fun _ => List.erase_cons_head _ _
    dsimp only
    cases wrapper.ownership with
    | borrowed => rfl
    | owned =>
      refine .bind (show Abides op locks (.closing w :: locks) _ from rfl) fun _ => ?_
      refine .bind (.inspect _) fun closed => ?_
      split
      · exact hgive _
      · refine .bind (.upcall ⟨w, h⟩) fun result => ?_
        cases (result : Except HostError Unit) with
        | error e => exact hgive _
        | ok _ => exact .bind (.update (by exact h) rfl) fun _ => hgive _

theorem abides_dispose {w : WrapperId} (h : op.Disposes w) : Abides op locks locks w.dispose := by
  refine .bind (.exchange (by exact h) rfl _) fun already => ?_
  cases already with
  | true => exact abides_closeNative h
  | false =>
    refine .bind (abides_releaseAll (Or.inr ⟨w, rfl, h⟩)) fun released => ?_
    refine .bind (.inspect _) fun wrapper? => ?_
    cases wrapper? with
    | none => exact abides_closeNative h
    | some wrapper => exact .bind (.report _) fun _ => abides_closeNative h

theorem abides_drop (w : WrapperId) : Abides (.drop w) locks locks w.drop := by
  refine .bind (abides_dispose (Or.inr rfl)) fun result => ?_
  cases result with
  | ok _ => rfl
  | error e =>
    refine .bind (.inspect _) fun wrapper? => ?_
    cases wrapper? with
    | none => rfl
    | some wrapper => exact .report _

end

/-- Every operation does what is its own, and starts and ends without locks. -/
theorem abides_activity (op : Operation) : Abides op [] [] op.activity := by
  have hanswer : ∀ {γ : Type} (f : γ → Answer) {a : Activity Unit γ}, Abides op [] [] a →
      Abides op [] [] (a.answering f) :=
    fun _ _ ha => .bind ha fun _ => rfl
  cases op with
  | makeFunction | makeEvent | makeBridge | makeWrapper => exact hanswer _ (.exchange (by rfl) rfl _)
  | invoke f argument =>
    refine hanswer _ (abides_invoke ?_ ?_ f argument)
    · exact fun _ _ => Or.inl ⟨f, argument, rfl⟩
    · exact fun _ _ => Or.inl ⟨f, argument, rfl⟩
  | add e handler => exact hanswer _ (abides_add (Or.inl rfl))
  | remove e handler => exact hanswer _ (abides_remove (Or.inl rfl))
  | raise e argument => exact hanswer _ (abides_raise e argument)
  | count e => exact hanswer _ (.locked_look _)
  | clear e => exact hanswer _ (.locked (by rfl) rfl _)
  | registerMember b key hook => exact hanswer _ (.locked (by rfl) rfl _)
  | attach b key callback converter registrar => exact hanswer _ (abides_attach ..)
  | tryDetach b key callback => exact hanswer _ (abides_tryDetach (Or.inl rfl))
  | detachFrom b key callback e => exact hanswer _ (abides_detachFrom ..)
  | releaseAll b => exact hanswer _ (abides_releaseAll (Or.inl rfl))
  | len | totalLen | isEmpty | isReleased | showBridge => exact hanswer _ (.locked_look _)
  | dispose w => exact hanswer _ (abides_dispose (Or.inl rfl))
  | drop w => exact hanswer _ (abides_drop w)
  | isDisposed | ensureLive => exact hanswer _ (.inspect _)

/-- Every operation keeps the contract of all operations. -/
theorem keeps_abiding (op : Operation) : Keeps abiding op := by
  refine fun call o _ => ⟨trivial, ?_⟩
  refine Conforms.mono ?_ ((abides_activity op).conforms rfl)
  exact fun answer log hlog o' _ => hlog

end Interleaving
end Hostlink
