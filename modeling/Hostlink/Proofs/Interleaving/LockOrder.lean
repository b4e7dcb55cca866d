import Hostlink.Proofs.Interleaving.Ledger

/-!
# The order in which locks are taken

Every operation takes its locks one after the other, with one exception: an attachment registers the
native callback while it has the lock of the table, and the registration may take the lock of an
event's handlers.  Client code is called without locks, but for the code that registers, which is
called under the lock of the table, and a close, which is called under the lock of the close.

`Orders` follows an activity with both in view; `keeps_ordering` is the result for all operations.
-/

namespace Hostlink

/-- The operations that make a callback or add one to an event.  They call no client code, and of the
locks they take at most that of the event. -/
def Operation.Adds : Operation → Prop
  | .makeFunction | .add _ _ => True
  | _ => False

/-- The locks that an operation can take while it has no other. -/
def Operation.Takes : Operation → Lock → Prop
  | .makeFunction, _ => False
  | .add e _, lock => lock = .handlers e
  | _, _ => True

/-- Whether an operation that has some locks may take another one. -/
def Operation.MayTake (op : Operation) (locks : List Lock) (lock : Lock) : Prop :=
  (locks = [] ∧ op.Takes lock) ∨
    ∃ b key callback converter e, op = .attach b key callback converter (.addTo e) ∧
      locks = [.table b] ∧ lock = .handlers e

/-- Whether a call of the client is made with just the locks that it may be made with. -/
def Upcall.Meets (locks : List Lock) : Upcall → Prop
  | .register _ _ => ∃ b, locks = [.table b]
  | .close _ => ∃ w, locks = [.closing w]
  | .invoke _ _ | .convert _ _ | .unregister _ _ => locks = []

theorem Operation.takes_of_disposes {op : Operation} {w : WrapperId} (h : op.Disposes w)
    (lock : Lock) : op.Takes lock := by
  rcases h with rfl | rfl <;> trivial

theorem Operation.takes_of_releases {op : Operation} {b : BridgeId} (h : op.Releases b)
    (lock : Lock) : op.Takes lock := by
  rcases h with rfl | ⟨w, _, h⟩
  · trivial
  · exact takes_of_disposes h lock

theorem Operation.adds_of_eq {op : Operation} (h : op = .makeFunction) : op.Adds := by
  rw [h]
  trivial

/-- Operations that only add call no client code. -/
theorem Operation.Adds.not_asks {op : Operation} (h : op.Adds) (upcall : Upcall) :
    ¬ op.Asks upcall := by
  cases op with
  | makeFunction | add => cases upcall <;> simp [Operation.Asks, Operation.Releases, Operation.Disposes]
  | _ => cases h

namespace Interleaving

variable {α β : Type}

/-- The contract of taking locks in order. -/
def ordering : Contract := fun x log =>
  match x.deed with
  | .took lock => x.operation.MayTake (held log) lock
  | .asked upcall => upcall.Meets (held log)
  | _ => True

/-- Whether an activity of `op` that has the locks `before` takes locks and calls the client in
order, and ends with the locks `after`. -/
def Orders (op : Operation) (before after : List Lock) : Activity Unit α → Prop
  | .done _ => before = after
  | .panicked _ => True
  | .step _ next => ∀ o, Orders op before after (next o)
  | .own _ _ => False
  | .acquire lock next => op.MayTake before lock ∧ Orders op (lock :: before) after next
  | .release lock next => Orders op (before.erase lock) after next
  | .call upcall next => upcall.Meets before ∧ ∀ reply, Orders op before after (next reply)

namespace Orders

variable {op : Operation}

theorem bind {before middle after : List Lock} {a : Activity Unit α} {f : α → Activity Unit β}
    (ha : Orders op before middle a) (hf : ∀ result, Orders op middle after (f result)) :
    Orders op before after (a.bind f) := by
  induction a generalizing before with
  | done result =>
    rw [show before = middle from ha]
    exact hf result
  | panicked message => trivial
  | step effect next ih => exact fun o => ih o (ha o)
  | own change next ih => exact ha
  | acquire lock next ih => exact ⟨ha.1, ih ha.2⟩
  | release lock next ih => exact ih ha
  | call upcall next ih => exact ⟨ha.1, fun reply => ih reply (ha.2 reply)⟩

theorem forEach {locks : List Lock} {xs : List α} {f : α → Activity Unit Unit}
    (hf : ∀ x, Orders op locks locks (f x)) : Orders op locks locks (Activity.forEach xs f) := by
  induction xs with
  | nil => rfl
  | cons x rest ih => exact bind (hf x) fun _ => ih

/-- A section under a lock of its own. -/
theorem locked {locks : List Lock} {lock : Lock} (hlock : op.MayTake locks lock) (f : Objects → α)
    (effect : Effect) : Orders op locks locks (Activity.locked lock f effect) :=
  ⟨hlock, fun _ => List.erase_cons_head lock locks⟩

theorem exchange {locks : List Lock} (f : Objects → α) (effect : Effect) :
    Orders op locks locks (Activity.exchange f effect) :=
  fun _ => rfl

theorem inspect {locks : List Lock} (f : Objects → α) :
    Orders op locks locks (Activity.inspect f) :=
  fun _ => rfl

theorem update {locks : List Lock} (effect : Effect) :
    Orders op locks locks (Activity.update effect) :=
  fun _ => rfl

theorem upcall {locks : List Lock} {r : Upcall} (hr : r.Meets locks) :
    Orders op locks locks (Activity.upcall r) :=
  ⟨hr, fun _ => rfl⟩

theorem conforms {call : Nat} {before after : List Lock} {a : Activity Unit α}
    (ha : Orders op before after a) {log : History} (hlog : held log = before) :
    Conforms ordering call op (fun _ log' => held log' = after) a log := by
  induction a generalizing before log with
  | done result => exact hlog.trans ha
  | panicked message => exact fun _ => trivial
  | step effect next ih => exact fun o _ => ⟨trivial, ih o (ha o) hlog⟩
  | own change next ih => exact ha
  | acquire lock next ih =>
    refine fun o _ => ⟨?_, ih ha.2 (by rw [held, hlog])⟩
    rw [ordering, hlog]
    exact ha.1
  | release lock next ih => exact fun o _ => ⟨trivial, ih ha (by rw [held, hlog])⟩
  | call r next ih =>
    refine fun o _ => ⟨?_, ?_, fun message o' _ => ⟨trivial, fun _ => trivial⟩⟩
    · rw [ordering, hlog]
      exact ha.1
    · exact fun reply o' _ => ⟨trivial, ih reply (ha.2 reply) hlog⟩

end Orders

/-! ## Every operation takes its locks in order -/

section

variable {op : Operation}

theorem orders_converter_apply (converter : Converter) (argument : Payload) :
    Orders op [] [] (converter.apply argument) := by
  cases converter with
  | client code => exact .upcall rfl
  | availability =>
    cases argument with
    | status value =>
      unfold Converter.apply
      dsimp only
      split
      · split
        · rfl
        · trivial
      · rfl
    | int | text | change => rfl

theorem orders_convertThrough (converters : List Converter) (argument : Payload) :
    Orders op [] [] (convertThrough converters argument) := by
  induction converters generalizing argument with
  | nil => rfl
  | cons converter rest ih => exact .bind (orders_converter_apply converter argument) ih

theorem orders_invoke (f : FunctionId) (argument : Payload) :
    Orders op [] [] (f.invoke argument) := by
  refine .bind (.inspect _) fun function => ?_
  exact .bind (orders_convertThrough _ _) fun argument => .upcall rfl

/-- A section of its own, in an operation that takes no other locks at the same time. -/
theorem orders_section {lock : Lock} (h : op.Takes lock) (f : Objects → α) (effect : Effect) :
    Orders op [] [] (Activity.locked lock f effect) :=
  .locked (Or.inl ⟨rfl, h⟩) f effect

theorem orders_raise (e : EventId) (argument : Payload) :
    Orders (.raise e argument) [] [] (e.raise argument) := by
  refine .bind (orders_section (by trivial) _ _) fun handlers => ?_
  exact .bind (.forEach fun handler => orders_invoke handler argument) fun _ => rfl

theorem orders_attach (b : BridgeId) (key : MemberKey) (callback : FunctionId)
    (converter : Converter) (registrar : Registrar) :
    Orders (.attach b key callback converter registrar) [] []
      (b.attach key callback converter registrar) := by
  refine .bind (.exchange _ _) fun native => ?_
  refine .bind (show Orders _ [] [.table b] _ from ⟨Or.inl ⟨rfl, trivial⟩, rfl⟩) fun _ => ?_
  refine .bind (.inspect _) fun released => ?_
  have hgive : ∀ result : Except HostError FunctionId,
      Orders (.attach b key callback converter registrar) [.table b] []
        ((Activity.give (.table b)).bind fun _ => .done result) :=
    fun _ => List.erase_cons_head _ _
  have hregister : Orders (.attach b key callback converter registrar) [.table b] [.table b]
      (registrar.run native) := by
    cases registrar with
    | addTo e => exact .locked (Or.inr ⟨b, key, callback, converter, e, rfl, rfl, rfl⟩) _ _
    | client code => exact .upcall ⟨b, rfl⟩
  split
  · exact .bind (.update _) fun _ => hgive _
  · refine .bind hregister fun _ => ?_
    refine .bind (.update _) fun _ => ?_
    refine .bind (.inspect _) fun registrations => ?_
    exact .bind (.update _) fun _ => hgive _

theorem orders_tryDetach {b : BridgeId} {key : MemberKey} {callback : FunctionId}
    (h : op.Takes (.table b)) : Orders op [] [] (b.tryDetach key callback) := by
  refine .bind (orders_section h _ _) fun seen => ?_
  obtain ⟨known, found, count⟩ := seen
  cases found with
  | some entry => exact .bind (.update _) fun _ => rfl
  | none =>
    cases known with
    | true => exact .bind (.update _) fun _ => rfl
    | false => rfl

theorem orders_detachFrom (b : BridgeId) (key : MemberKey) (callback : FunctionId) (e : EventId) :
    Orders (.detachFrom b key callback e) [] [] (b.detachFrom key callback e) := by
  refine .bind (orders_tryDetach (by trivial)) fun found => ?_
  cases found with
  | none => rfl
  | some native => exact orders_section (by trivial) _ _

theorem orders_hook_run {b : BridgeId} (h : op.Releases b) (hook : Hook) (native : FunctionId) :
    Orders op [] [] (hook.run native) := by
  cases hook with
  | removeFrom e =>
    exact .bind (orders_section (Operation.takes_of_releases h _) _ _) fun _ => rfl
  | client code => exact .upcall rfl

theorem orders_releaseAll {b : BridgeId} (h : op.Releases b) : Orders op [] [] b.releaseAll := by
  refine .bind (orders_section (Operation.takes_of_releases h _) _ _) fun batches => ?_
  refine .bind (.forEach fun batch => ?_) fun _ => ?_
  · unfold Batch.unregister
    split
    · rfl
    · exact .forEach fun native => orders_hook_run h _ native
  · dsimp only
    split
    · exact .bind (.update _) fun _ => rfl
    · rfl

theorem orders_closeNative {w : WrapperId} (h : op.Disposes w) :
    Orders op [] [] w.closeNative := by
  refine .bind (.inspect _) fun wrapper? => ?_
  cases wrapper? with
  | none => rfl
  | some wrapper =>
    have hgive : ∀ result : Except HostError Unit, Orders op [.closing w] []
        ((Activity.give (.closing w)).bind fun _ => .done result) :=
      fun _ => List.erase_cons_head _ _
    dsimp only
    cases wrapper.ownership with
    | borrowed => rfl
    | owned =>
      refine .bind (show Orders op [] [.closing w] _ from
        ⟨Or.inl ⟨rfl, Operation.takes_of_disposes h _⟩, rfl⟩) fun _ => ?_
      refine .bind (.inspect _) fun closed => ?_
      split
      · exact hgive _
      · refine .bind (.upcall ⟨w, rfl⟩) fun result => ?_
        cases (result : Except HostError Unit) with
        | error e => exact hgive _
        | ok _ => exact .bind (.update _) fun _ => hgive _

theorem orders_dispose {w : WrapperId} (h : op.Disposes w) : Orders op [] [] w.dispose := by
  refine .bind (.exchange _ _) fun already => ?_
  cases already with
  | true => exact orders_closeNative h
  | false =>
    refine .bind (orders_releaseAll (Or.inr ⟨w, rfl, h⟩)) fun released => ?_
    refine .bind (.inspect _) fun wrapper? => ?_
    cases wrapper? with
    | none => exact orders_closeNative h
    | some wrapper => exact .bind (.update _) fun _ => orders_closeNative h

theorem orders_drop (w : WrapperId) : Orders (.drop w) [] [] w.drop := by
  refine .bind (orders_dispose (Or.inr rfl)) fun result => ?_
  cases result with
  | ok _ => rfl
  | error e =>
    refine .bind (.inspect _) fun wrapper? => ?_
    cases wrapper? with
    | none => rfl
    | some wrapper => exact .update _

end

/-- Every operation takes its locks in order, and starts and ends without locks. -/
theorem orders_activity (op : Operation) : Orders op [] [] op.activity := by
  have hanswer : ∀ {γ : Type} (f : γ → Answer) {a : Activity Unit γ}, Orders op [] [] a →
      Orders op [] [] (a.answering f) :=
    fun _ _ ha => .bind ha fun _ => rfl
  cases op with
  | makeFunction | makeEvent | makeBridge | makeWrapper => exact hanswer _ (.exchange _ _)
  | invoke f argument => exact hanswer _ (orders_invoke f argument)
  | add e handler => exact hanswer _ (orders_section (by rfl) _ _)
  | remove | count | clear | registerMember | len | totalLen | isEmpty | isReleased | showBridge =>
    exact hanswer _ (orders_section (by trivial) _ _)
  | raise e argument => exact hanswer _ (orders_raise e argument)
  | attach b key callback converter registrar =>
    exact hanswer _ (orders_attach b key callback converter registrar)
  | tryDetach b key callback => exact hanswer _ (orders_tryDetach (by trivial))
  | detachFrom b key callback e => exact hanswer _ (orders_detachFrom b key callback e)
  | releaseAll b => exact hanswer _ (orders_releaseAll (Or.inl rfl))
  | dispose w => exact hanswer _ (orders_dispose (Or.inl rfl))
  | drop w => exact hanswer _ (orders_drop w)
  | isDisposed | ensureLive => exact hanswer _ (.inspect _)

/-- Every operation keeps the contract of taking locks in order. -/
theorem keeps_ordering (op : Operation) : Keeps ordering op := by
  refine fun call o _ => ⟨trivial, ?_⟩
  exact Conforms.mono (fun _ _ _ _ _ => trivial) ((orders_activity op).conforms rfl)

end Interleaving
end Hostlink
