import Hostlink.Proofs.Bridge.FirstInFirstOut
import Hostlink.Proofs.Network.Desk

/-!
# Adapters used without interruption

What the operations on sources and adapters leave, when callbacks are only noted: the result, the
objects but for the log events, and the calls.
-/

namespace Hostlink

variable {σ α β : Type} {service : Service σ} {held held' : List Lock} {w : World σ}

/-- Whether an activity returns a result and leaves these locks, these objects but for the log
events, and this state of the client. -/
def Activity.Leaves (a : Activity σ α) (service : Service σ) (held : List Lock) (w : World σ)
    (result : α) (held' : List Lock) (o : Objects) (client : σ) : Prop :=
  ∃ notices, a.run service held w = ⟨.returned result, held', ⟨{ o with notices }, client⟩⟩

namespace Activity.Leaves

theorem bind {a : Activity σ α} {f : α → Activity σ β} {result : α} {result' : β}
    {held'' : List Lock} {o o' : Objects} {client client' : σ}
    (h : a.Leaves service held w result held' o client)
    (h' : ∀ notices, (f result).Leaves service held' ⟨{ o with notices }, client⟩ result' held'' o'
      client') :
    (a.bind f).Leaves service held w result' held'' o' client' := by
  obtain ⟨notices, hrun⟩ := h
  obtain ⟨notices', hrun'⟩ := h' notices
  refine ⟨notices', ?_⟩
  rw [Activity.run_bind, hrun]
  exact hrun'

theorem done (result : α) :
    (Activity.done result).Leaves service held w result held w.objects w.client :=
  ⟨w.objects.notices, rfl⟩

theorem exchange (f : Objects → α) (effect : Effect) :
    (Activity.exchange f effect).Leaves service held w (f w.objects) held (effect.apply w.objects)
      w.client :=
  ⟨(effect.apply w.objects).notices, rfl⟩

theorem inspect {f : Objects → α} {result : α} (h : f w.objects = result) :
    (Activity.inspect f).Leaves service held w result held w.objects w.client :=
  ⟨w.objects.notices, by rw [← h]; rfl⟩

theorem update (effect : Effect) :
    (Activity.update effect).Leaves service held w () held (effect.apply w.objects) w.client :=
  ⟨(effect.apply w.objects).notices, rfl⟩

theorem report (event : Log.Event) :
    (Activity.report event).Leaves service held w () held w.objects w.client :=
  ⟨event :: w.objects.notices, rfl⟩

theorem take {lock : Lock} (hlock : lock ∉ held) :
    (Activity.take lock).Leaves service held w () (lock :: held) w.objects w.client := by
  refine ⟨w.objects.notices, ?_⟩
  simp [Activity.take, Activity.run, hlock]

theorem give (lock : Lock) :
    (Activity.give lock).Leaves service held w () (held.erase lock) w.objects w.client :=
  ⟨w.objects.notices, rfl⟩

theorem locked {lock : Lock} (hlock : lock ∉ held) (f : Objects → α) (effect : Effect) :
    (Activity.locked lock f effect).Leaves service held w (f w.objects) held
      (effect.apply w.objects) w.client := by
  refine ⟨(effect.apply w.objects).notices, ?_⟩
  simp [Activity.locked, Activity.run, hlock]

end Activity.Leaves

/-- An activity performed is an activity run that starts without locks. -/
theorem Client.perform_of_run {client : Client σ} {depth : Nat} {a : Activity σ α}
    {ending : Ending σ α} (h : a.run (client.service depth) [] w = ending) :
    client.perform depth a w = (ending.outcome, ending.world) := by
  rw [← h]
  rfl

open Activity

/-! ## Bridges and wrappers -/

namespace BridgeId

/-- Attaching to an event adds a native callback to it and records it. -/
theorem attach_leaves {k : WrapperId} {e : EventId}
    (hlive : (w.objects.table (.ofWrapper k)).released = false)
    (htable : .table (.ofWrapper k) ∉ held) (hhandlers : .handlers e ∉ held) (key : MemberKey)
    (callback : FunctionId) (converter : Converter) :
    ((ofWrapper k).attach key callback converter (.addTo e)).Leaves service held w
      (.ok w.objects.nextFunction) held
      (((w.objects.addBridged callback converter).modifyEvent e
        (·.add w.objects.nextFunction)).modifyTable (.ofWrapper k)
          (·.push key ⟨callback, w.objects.nextFunction⟩)) w.client := by
  refine .bind (.exchange _ _) fun _ => ?_
  refine .bind (.take htable) fun _ => ?_
  refine .bind (.inspect hlive) fun _ => ?_
  rw [if_neg Bool.false_ne_true]
  refine .bind (.locked (by simp [hhandlers]) _ _) fun _ => ?_
  refine .bind (.update _) fun _ => ?_
  refine .bind (.inspect rfl) fun _ => ?_
  refine .bind (.report _) fun _ => ?_
  refine .bind (.give _) fun _ => ?_
  rw [List.erase_cons_head]
  exact .done _

/-- Detaching takes what the table holds first. -/
theorem tryDetach_leaves {b : BridgeId} (htable : .table b ∉ held) (key : MemberKey)
    (caller : FunctionId) :
    (b.tryDetach key caller).Leaves service held w
      (((w.objects.table b).first? key caller).map (·.native)) held
      ((Effect.detach b key caller).apply w.objects) w.client :=
  tryDetach_run htable key caller w

end BridgeId

/-- Handing native callbacks to a hook removes each of them from the event. -/
theorem EventId.forEach_remove_leaves {e : EventId} (hhandlers : .handlers e ∉ held)
    (natives : List FunctionId) :
    (Activity.forEach natives (Hook.removeFrom e).run).Leaves service held w () held
      (w.objects.modifyEvent e (natives.foldl Multicast.remove)) w.client := by
  induction natives generalizing w with
  | nil =>
    have hsame : w.objects.modifyEvent e ([].foldl Multicast.remove) = w.objects := by
      rw [Objects.modifyEvent, Registry.modify_eq_self (by simp)]
    rw [hsame]
    exact .done ()
  | cons native rest ih =>
    have hfold : (w.objects.modifyEvent e (·.remove native)).modifyEvent e
        (rest.foldl Multicast.remove) =
          w.objects.modifyEvent e ((native :: rest).foldl Multicast.remove) :=
      congrArg (fun events => { w.objects with events }) (Registry.modify_modify ..)
    rw [← hfold]
    refine .bind (.bind (.locked hhandlers _ _) fun _ => .done ()) fun _ => ?_
    exact ih

/-- Releasing the callbacks of one event removes them from it. -/
theorem BridgeId.releaseAll_leaves {k : WrapperId} {e : EventId} {natives : List FunctionId}
    (hbatches : (w.objects.table (.ofWrapper k)).batches = [⟨some (.removeFrom e), natives⟩])
    (htable : .table (.ofWrapper k) ∉ held) (hhandlers : .handlers e ∉ held) :
    (ofWrapper k).releaseAll.Leaves service held w natives.length held
      ((w.objects.modifyTable (.ofWrapper k) (·.drained)).modifyEvent e
        (natives.foldl Multicast.remove)) w.client := by
  refine .bind (.locked htable _ _) fun _ => ?_
  simp only [hbatches, List.flatMap_cons, List.flatMap_nil, List.append_nil]
  refine .bind (.bind (EventId.forEach_remove_leaves hhandlers natives) fun _ => .done ())
    fun _ => ?_
  split
  · exact .bind (.report _) fun _ => .done _
  · exact .done _

namespace WrapperId

/-- A borrowed object is not closed. -/
theorem closeNative_leaves {k : WrapperId} {wrapper : Wrapper}
    (hwrapper : w.objects.wrapper? k = some wrapper) (howns : wrapper.ownership = .borrowed) :
    k.closeNative.Leaves service held w (.ok ()) held w.objects w.client := by
  refine .bind (.inspect hwrapper) fun _ => ?_
  simp only [howns]
  exact .done _

/-- Disposing of a borrowed object for the first time removes its callbacks from their event. -/
theorem dispose_leaves {k : WrapperId} {wrapper : Wrapper} {e : EventId}
    {natives : List FunctionId} (hwrapper : w.objects.wrapper? k = some wrapper)
    (howns : wrapper.ownership = .borrowed) (hlive : wrapper.disposed = false)
    (hbatches : wrapper.callbacks.batches = [⟨some (.removeFrom e), natives⟩]) :
    k.dispose.Leaves service [] w (.ok ()) []
      ((w.objects.modifyWrapper k fun wrapper =>
        { wrapper with disposed := true, callbacks := wrapper.callbacks.drained }).modifyEvent e
          (natives.foldl Multicast.remove)) w.client := by
  let marked := w.objects.modifyWrapper k ({ · with disposed := true })
  have hmarked : marked.wrapper? k = some { wrapper with disposed := true } := by
    rw [Objects.wrapper?_modifyWrapper_self, hwrapper]
    rfl
  have hdrained : marked.modifyTable (.ofWrapper k) (·.drained) = w.objects.modifyWrapper k
      fun wrapper => { wrapper with disposed := true, callbacks := wrapper.callbacks.drained } :=
    congrArg (fun wrappers => { w.objects with wrappers }) (Registry.modify_modify ..)
  have hrelease : ∀ notices, (BridgeId.ofWrapper k).releaseAll.Leaves service []
      ⟨{ marked with notices }, w.client⟩ natives.length []
      ((marked.modifyTable (.ofWrapper k) (·.drained)).modifyEvent e
        (natives.foldl Multicast.remove)) w.client := by
    intro notices
    refine BridgeId.releaseAll_leaves ?_ List.not_mem_nil List.not_mem_nil
    show CallbackTable.batches (((marked.wrapper? k).map (·.callbacks)).getD .empty) = _
    rw [hmarked]
    exact hbatches
  rw [← hdrained]
  refine .bind (.exchange _ _) fun _ => ?_
  -- The wrapper was not marked before, so this is the disposal that releases the bridge.
  simp only [hwrapper, Option.map_some, Option.getD_some, hlive, Bool.not_false, ↓reduceIte]
  refine .bind (hrelease _) fun _ => ?_
  have hfinal : ((marked.modifyTable (.ofWrapper k) (·.drained)).modifyEvent e
      (natives.foldl Multicast.remove)).wrapper? k =
        some { wrapper with disposed := true, callbacks := wrapper.callbacks.drained } := by
    show (marked.modifyTable (.ofWrapper k) (·.drained)).wrapper? k = _
    rw [hdrained, Objects.wrapper?_modifyWrapper_self, hwrapper]
    rfl
  refine .bind (.inspect hfinal) fun _ => ?_
  exact .bind (.report _) fun _ => closeNative_leaves hfinal howns

/-- Disposing of a borrowed object again does nothing. -/
theorem dispose_leaves_again {k : WrapperId} {wrapper : Wrapper}
    (hwrapper : w.objects.wrapper? k = some wrapper) (howns : wrapper.ownership = .borrowed)
    (hdisposed : wrapper.disposed = true) :
    k.dispose.Leaves service held w (.ok ()) held w.objects w.client := by
  have hsame : (Effect.markDisposed k).apply w.objects = w.objects := by
    show w.objects.modifyWrapper k _ = _
    rw [Objects.modifyWrapper, Registry.modify_eq_self]
    intro found hfound
    obtain rfl : found = wrapper := Option.some_inj.mp (hfound.symm.trans hwrapper)
    rw [← hdisposed]
  refine .bind (.exchange _ _) fun _ => ?_
  simp only [hwrapper, Option.map_some, Option.getD_some, hdisposed, Bool.not_true]
  rw [hsame]
  exact closeNative_leaves hwrapper howns

end WrapperId

/-! ## Events and sources -/

namespace Network

variable {held : List Lock} {w : World Calls} {value : Availability}

/-- An observation of the present time or of a time in the calendar is handed on. -/
theorem convertThrough_availability (hvalue : ∀ t, value.at? = some t → t.inCalendar = true) :
    (convertThrough [.availability] (.status value) : Activity Calls Payload) =
      .done (.change value) := by
  rw [convertThrough, Converter.apply]
  cases hat : value.at? with
  | none => rfl
  | some t =>
    simp only [hvalue t hat, ↓reduceIte]
    rfl

/-- The calls of functions with an observation, as callers receive it. -/
def callsOf (o : Objects) (handlers : List FunctionId) (value : Availability) : Calls :=
  handlers.map fun handler => ((o.function handler).endpoint, .change value)

/-- Whether a function makes a change of availability of an observation. -/
def Converts (o : Objects) (value : Availability) (handler : FunctionId) : Prop :=
  (o.function handler).converters = [.availability] ∧ ∀ t, value.at? = some t → t.inCalendar = true

/-- Calling native callbacks notes the call of what each of them was made for. -/
theorem forEach_invoke_leaves {handlers : List FunctionId}
    (hhandlers : ∀ handler ∈ handlers, Converts w.objects value handler) :
    (Activity.forEach handlers fun handler => handler.invoke (.status value)).Leaves
      (recorder.service 0) held w () held w.objects
        (w.client ++ callsOf w.objects handlers value) := by
  induction handlers generalizing w with
  | nil =>
    rw [callsOf, List.map_nil, List.append_nil]
    exact .done ()
  | cons handler rest ih =>
    have hcalls : w.client ++ callsOf w.objects (handler :: rest) value =
        (w.client ++ [((w.objects.function handler).endpoint, .change value)]) ++
          callsOf w.objects rest value := by
      simp [callsOf]
    have hinvoke : (handler.invoke (.status value)).Leaves (recorder.service 0) held w () held
        w.objects (w.client ++ [((w.objects.function handler).endpoint, .change value)]) := by
      obtain ⟨hconverters, hvalue⟩ := hhandlers handler List.mem_cons_self
      refine .bind (.inspect rfl) fun notices => ?_
      rw [hconverters, convertThrough_availability hvalue]
      exact ⟨notices, rfl⟩
    rw [hcalls]
    exact .bind hinvoke fun _ => ih fun h hh => hhandlers h (List.mem_cons_of_mem _ hh)

variable {e : EventId}

/-- A raise calls all handlers, in order. -/
theorem raise_leaves
    (hhandlers : ∀ handler ∈ (w.objects.event e).handlers, Converts w.objects value handler)
    (hheld : .handlers e ∉ held) :
    (e.raise (.status value)).Leaves (recorder.service 0) held w
      (w.objects.event e).handlers.length held w.objects
        (w.client ++ callsOf w.objects (w.objects.event e).handlers value) := by
  refine .bind (.locked hheld _ _) fun _ => ?_
  exact .bind (forEach_invoke_leaves hhandlers) fun _ => .done _

/-- A time that the calendar does not have cannot be handed on, even to the first handler. -/
theorem raise_panics {t : Time.Instant} (hat : value.at? = some t) (ht : t.inCalendar = false)
    {handler : FunctionId} {rest : List FunctionId}
    (hevent : (w.objects.event e).handlers = handler :: rest)
    (hhandler : (w.objects.function handler).converters = [.availability])
    (hheld : .handlers e ∉ held) :
    (e.raise (.status value)).run (recorder.service 0) held w =
      ⟨.panicked "No such local time", [], w⟩ := by
  have hsection : (Activity.locked (.handlers e) (fun o => (o.event e).handlers) .look).run
      (recorder.service 0) held w = ⟨.returned (handler :: rest), held, w⟩ := by
    simp [Activity.locked, Activity.run, hheld, hevent, Effect.apply]
  have hinvoke : (handler.invoke (.status value)).run (recorder.service 0) held w =
      ⟨.panicked "No such local time", [], w⟩ := by
    show ((convertThrough (w.objects.function handler).converters (.status value)).bind
      _).run (recorder.service 0) held w = _
    rw [hhandler, convertThrough, Converter.apply]
    simp only [hat, ht, Bool.false_eq_true, ↓reduceIte]
    rfl
  show (Activity.bind _ _).run (recorder.service 0) held w = _
  rw [Activity.run_bind, hsection]
  show (Activity.bind (Activity.bind _ _) _).run (recorder.service 0) held w = _
  rw [Activity.run_bind, Activity.run_bind, hinvoke]
  rfl

variable {s : SourceId} {source : StatusSource}

/-- An observation is recorded, and all handlers are called if it is unlike the last one. -/
theorem record_leaves (hs : w.objects.source? s = some source) (available : Bool)
    (hhandlers : ∀ handler ∈ (w.objects.event source.changed).handlers,
      (w.objects.function handler).converters = [.availability])
    (hheld : .handlers source.changed ∉ held) :
    (s.record available).Leaves (recorder.service 0) held w (decide (source.available ≠ available))
      held (w.objects.modifySource s ({ · with available }))
        (w.client ++ if source.available = available then []
          else callsOf w.objects (w.objects.event source.changed).handlers ⟨available, none⟩) := by
  refine .bind (.exchange _ _) fun _ => ?_
  simp only [hs, Option.map_some, Option.getD_some]
  by_cases hsame : source.available = available
  · rw [if_pos hsame, if_pos hsame, decide_eq_false (not_not_intro hsame), List.append_nil]
    exact .done _
  · have hchanged : (((w.objects.modifySource s ({ · with available })).source? s).map
        (·.changed)).getD ⟨0⟩ = source.changed := by
      rw [Objects.source?, Objects.modifySource, Registry.get?_modify_index]
      rw [Objects.source?] at hs
      rw [hs]
      rfl
    rw [if_neg hsame, if_neg hsame, decide_eq_true hsame]
    refine .bind (.inspect hchanged) fun _ => ?_
    refine .bind (raise_leaves (fun handler hmem => ⟨hhandlers handler hmem, by simp⟩) hheld)
      fun _ => ?_
    exact .bind (.report _) fun _ => .done _

/-- The number of handlers. -/
theorem count_leaves (hheld : .handlers e ∉ held) :
    e.count.Leaves (recorder.service 0) held w (w.objects.event e).count held w.objects w.client :=
  .locked hheld _ _

end Network

/-! ## Adapters -/

/-- A new callback. -/
theorem FunctionId.make_leaves :
    FunctionId.make.Leaves service held w w.objects.nextFunction held w.objects.addFunction
      w.client :=
  .exchange _ _

/-- A new source. -/
theorem SourceId.make_leaves (address : String) :
    (SourceId.make address).Leaves service held w w.objects.nextSource held
      (w.objects.addSource address) w.client :=
  .exchange _ _

namespace WrapperId

variable {k : WrapperId} {wrapper : Wrapper}

/-- A wrapper is live until it is disposed of. -/
theorem ensureLive_leaves (hwrapper : w.objects.wrapper? k = some wrapper) :
    k.ensureLive.Leaves service held w wrapper.ensureLive held w.objects w.client :=
  .inspect (by rw [hwrapper]; rfl)

end WrapperId

namespace NetworkAdapter

variable {a : NetworkAdapter} {wrapper : Wrapper} {source : StatusSource} {f : FunctionId}

/-- The event of a source that is there. -/
theorem changed_leaves {s : SourceId} (hs : w.objects.source? s = some source) :
    s.changed.Leaves service held w source.changed held w.objects w.client :=
  .inspect (by rw [hs]; rfl)

/-- A new adapter has a wrapper with one member. -/
theorem ofSource_leaves {s : SourceId} (hs : w.objects.source? s = some source) :
    (ofSource s).Leaves service [] w ⟨w.objects.nextWrapper, s⟩ []
      ((w.objects.addWrapper (.make .borrowed s.native)).modifyTable
        (.ofWrapper w.objects.nextWrapper)
          (·.setHook availabilityChanged (.removeFrom source.changed))) w.client := by
  refine .bind (.exchange _ _) fun _ => ?_
  refine .bind (changed_leaves hs) fun _ => ?_
  exact .bind (.locked List.not_mem_nil _ _) fun _ => .done _

/-- Attaching on a live adapter. -/
theorem on_leaves (hwrapper : w.objects.wrapper? a.wrapper = some wrapper)
    (hlive : wrapper.disposed = false) (hfree : wrapper.callbacks.released = false)
    (hs : w.objects.source? a.source = some source) :
    (a.on f).Leaves service [] w (.ok ()) []
      (((w.objects.addBridged f .availability).modifyEvent source.changed
        (·.add w.objects.nextFunction)).modifyTable (.ofWrapper a.wrapper)
          (·.push availabilityChanged ⟨f, w.objects.nextFunction⟩)) w.client := by
  have hensure : wrapper.ensureLive = .ok () := by
    rw [Wrapper.ensureLive, hlive]
    rfl
  have htable : (w.objects.table (.ofWrapper a.wrapper)).released = false := by
    rw [Objects.table, hwrapper]
    exact hfree
  refine .bind (WrapperId.ensureLive_leaves hwrapper) fun _ => ?_
  simp only [hensure]
  refine .bind (changed_leaves hs) fun _ => ?_
  refine .bind (BridgeId.attach_leaves ?_ List.not_mem_nil List.not_mem_nil _ _ _) fun _ => .done _
  exact htable

/-- What a disposed adapter answers. -/
theorem ensureLive_of_disposed (hdisposed : wrapper.disposed = true) :
    wrapper.ensureLive = .error (.objectDisposed wrapper.native.typeName) := by
  rw [Wrapper.ensureLive, hdisposed]
  rfl

/-- Attaching on a disposed adapter. -/
theorem on_leaves_disposed (hwrapper : w.objects.wrapper? a.wrapper = some wrapper)
    (hdisposed : wrapper.disposed = true) :
    (a.on f).Leaves service held w (.error (.objectDisposed wrapper.native.typeName)) held w.objects
      w.client := by
  refine .bind (WrapperId.ensureLive_leaves hwrapper) fun _ => ?_
  simp only [ensureLive_of_disposed hdisposed]
  exact .done _

/-- Detaching what is not attached. -/
theorem off_leaves_none
    (hfound : (w.objects.table a.bridge).first? availabilityChanged f = none) :
    (a.off f).Leaves service [] w false [] w.objects w.client := by
  refine .bind (BridgeId.tryDetach_leaves List.not_mem_nil _ _) fun _ => ?_
  rw [Effect.apply_detach_of_none hfound]
  simp only [hfound, Option.map_none]
  exact .done _

/-- Detaching removes the native callback from the event. -/
theorem off_leaves_some {entry : Registration}
    (hfound : (w.objects.table a.bridge).first? availabilityChanged f = some entry)
    (hs : w.objects.source? a.source = some source) :
    (a.off f).Leaves service [] w ((w.objects.event source.changed).contains entry.native) []
      ((w.objects.modifyTable (.ofWrapper a.wrapper)
        (·.detach availabilityChanged f)).modifyEvent source.changed (·.remove entry.native))
          w.client := by
  refine .bind (BridgeId.tryDetach_leaves List.not_mem_nil _ _) fun _ => ?_
  simp only [hfound, Option.map_some]
  exact .bind (changed_leaves hs) fun _ => .locked List.not_mem_nil _ _

/-- A drop is a disposal whose success is not told. -/
theorem drop_leaves {o : Objects} {client : σ}
    (h : a.dispose.Leaves service held w (.ok ()) held o client) :
    a.drop.Leaves service held w () held o client :=
  .bind h fun _ => .done ()

/-- A poll on a live adapter records the answer of the probe. -/
theorem poll_leaves {o : Objects} {client : σ} {reachable changed : Bool}
    (hwrapper : w.objects.wrapper? a.wrapper = some wrapper) (hlive : wrapper.disposed = false)
    (hrecord : ∀ notices, (a.source.record reachable).Leaves service held
      ⟨{ w.objects with notices }, w.client⟩ changed held o client) :
    (a.poll fun _ => reachable).Leaves service held w (.ok reachable) held o client := by
  have hensure : wrapper.ensureLive = .ok () := by
    rw [Wrapper.ensureLive, hlive]
    rfl
  refine .bind (WrapperId.ensureLive_leaves hwrapper) fun _ => ?_
  simp only [hensure]
  refine .bind ?_ fun _ => .done _
  refine .bind (.bind (.inspect rfl) fun _ => .done _) fun _ => ?_
  exact .bind (hrecord _) fun _ => .done reachable

/-- A poll on a disposed adapter. -/
theorem poll_leaves_disposed {reachable : Bool}
    (hwrapper : w.objects.wrapper? a.wrapper = some wrapper) (hdisposed : wrapper.disposed = true) :
    (a.poll fun _ => reachable).Leaves service held w
      (.error (.objectDisposed wrapper.native.typeName)) held w.objects w.client := by
  refine .bind (WrapperId.ensureLive_leaves hwrapper) fun _ => ?_
  simp only [ensureLive_of_disposed hdisposed]
  exact .done _

end NetworkAdapter
end Hostlink
