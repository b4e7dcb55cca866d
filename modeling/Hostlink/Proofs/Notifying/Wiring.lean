import Hostlink.Proofs.Network.Shown
import Hostlink.Proofs.Notifying.Operation

/-!
# How handlers and adapters hang together

The event of a source has callbacks of the client and native callbacks.  `Wired` says that each native
callback in it is attached through exactly one adapter, whose hook takes it away again, and that it
is there only once.  A disposed adapter has nothing attached.

`Change` is one change that operations on sources and adapters make to objects that are wired.  What
it does to one wrapper and to one event is said once (`Change.wrapper`, `Change.event`); the rest is
derived from that.
-/

namespace Hostlink.Notifying

open Network.Picture (FunctionsKept functionsKept_insert functionsKept_of_eq)

variable {o o' : Objects} {s : SourceId} {k : WrapperId} {e : EventId} {f : FunctionId}

/-! ## Wired objects -/

/-- The wrapper of an adapter over a source with the event `e`. -/
def adapterWrapper (s : SourceId) (e : EventId) (entries : List Registration) (disposed : Bool) :
    Wrapper where
  native := s.native
  ownership := .borrowed
  callbacks := .sole NetworkAdapter.availabilityChanged ⟨entries, some (.removeFrom e)⟩ disposed
  disposed := disposed
  closed := false

theorem adapterWrapper_inj {s' : SourceId} {e' : EventId} {entries entries' : List Registration}
    {disposed disposed' : Bool} (h : adapterWrapper s e entries disposed = adapterWrapper s' e' entries' disposed') :
    s = s' ∧ e = e' ∧ entries = entries' ∧ disposed = disposed' := by
  have hmembers : [Member.mk entries (some (.removeFrom e))] = [⟨entries', some (.removeFrom e')⟩] :=
    congrArg (fun found : Wrapper => found.callbacks.members.values) h
  have hindex : s.index = s'.index := congrArg (fun found : Wrapper => found.native.identity) h
  have hdisposed : disposed = disposed' := congrArg (fun found : Wrapper => found.disposed) h
  obtain ⟨index⟩ := s
  obtain ⟨index'⟩ := s'
  simp only [List.cons.injEq, Member.mk.injEq, Option.some.injEq, Hook.removeFrom.injEq,
    and_true] at hmembers
  exact ⟨congrArg SourceId.mk hindex, hmembers.2, hmembers.1, hdisposed⟩

/-- Whether a native callback is attached through a wrapper whose hook removes it from the event `e`. -/
def Attached (o : Objects) (k : WrapperId) (e : EventId) (f : FunctionId) : Prop :=
  ∃ s entries disposed, o.wrapper? k = some (adapterWrapper s e entries disposed) ∧
    f ∈ entries.map (·.native)

/-- Whether a function is a native callback of an adapter. -/
def Bridged (o : Objects) (f : FunctionId) : Prop := (o.function f).converters = [.availability]

/-- The objects hang together. -/
structure Wired (o : Objects) : Prop where
  functions : ∀ f, (o.function f).converters = [] ∨ Bridged o f
  /-- Every wrapper is that of an adapter over a source. -/
  wrappers : ∀ k found, o.wrapper? k = some found → ∃ s source entries disposed,
    o.source? s = some source ∧ found = adapterWrapper s source.changed entries disposed ∧
      (disposed = true → entries = [])
  /-- Every handler exists, and a native callback is attached. -/
  handlers : ∀ e f, f ∈ (o.event e).handlers → o.HasFunction f ∧ (Bridged o f → ∃ k, Attached o k e f)
  once : ∀ e f, Bridged o f → (o.event e).handlers.count f ≤ 1
  attached : ∀ k e f, Attached o k e f → o.HasFunction f ∧ Bridged o f
  /-- A native callback leads to the callback that it was made for. -/
  callers : ∀ k x, x ∈ o.registrations k → o.function x.native = ⟨x.caller, [.availability]⟩
  /-- A native callback belongs to one adapter. -/
  unique : ∀ k e k' e' f, Attached o k e f → Attached o k' e' f → k = k'

theorem not_attached_empty : ¬ Attached .empty k e f := by
  rintro ⟨s, entries, disposed, hk, hf⟩
  cases hk

theorem Wired.empty : Wired .empty where
  functions := fun _ => Or.inl rfl
  wrappers := fun _ _ hfound => nomatch hfound
  handlers := fun _ _ hf => nomatch hf
  once := fun _ _ _ => Nat.zero_le 1
  attached := fun _ _ _ hf => absurd hf not_attached_empty
  callers := fun _ _ hx => nomatch hx
  unique := fun _ _ _ _ _ hf => absurd hf not_attached_empty

theorem registrations_of_wrapper {entries : List Registration} {disposed : Bool}
    (hk : o.wrapper? k = some (adapterWrapper s e entries disposed)) :
    o.registrations k = entries := by
  rw [Objects.registrations, Objects.table, hk]
  exact CallbackTable.entries_sole

theorem registrations_of_none (hk : o.wrapper? k = none) : o.registrations k = [] := by
  rw [Objects.registrations, Objects.table, hk]
  rfl

theorem Wired.attached_of_registration {x : Registration} (h : Wired o)
    (hx : x ∈ o.registrations k) : ∃ e, Attached o k e x.native := by
  cases hk : o.wrapper? k with
  | none =>
    rw [registrations_of_none hk] at hx
    cases hx
  | some found =>
    obtain ⟨s, source, entries, disposed, hs, rfl, hend⟩ := h.wrappers k found hk
    rw [registrations_of_wrapper hk] at hx
    exact ⟨source.changed, s, entries, disposed, hk, List.mem_map_of_mem hx⟩

/-- A disposed adapter has nothing attached. -/
theorem Wired.not_attached_of_disposed (h : Wired o) (hk : o.Disposed k) : ¬ Attached o k e f := by
  rintro ⟨s, entries, disposed, hwrapper, hf⟩
  obtain ⟨found, hfound, hdisposed⟩ := hk
  obtain ⟨s', source, entries', disposed', hs, rfl, hend⟩ := h.wrappers k found hfound
  obtain ⟨_, _, rfl, _⟩ := adapterWrapper_inj (Option.some.inj (hwrapper.symm.trans hfound))
  rw [hend hdisposed] at hf
  cases hf

/-- An observation leaves the event of every source. -/
theorem source?_modifySource {s' : SourceId} {source : StatusSource} (s : SourceId)
    (available : Bool) (hs : o.source? s' = some source) :
    ∃ source', (o.modifySource s ({ · with available })).source? s' = some source' ∧
      source'.changed = source.changed := by
  by_cases hindex : s.index = s'.index
  · refine ⟨{ source with available }, ?_, rfl⟩
    rw [Objects.source?, Objects.modifySource, hindex, Registry.get?_modify_index]
    exact congrArg (Option.map _) hs
  · exact ⟨source, (Registry.get?_modify_other _ _ hindex).trans hs, rfl⟩

/-- An observation leaves the objects wired. -/
theorem Wired.modifySource (h : Wired o) (s : SourceId) (available : Bool) :
    Wired (o.modifySource s ({ · with available })) where
  functions := h.functions
  wrappers := by
    intro k found hfound
    obtain ⟨s', source, entries, disposed, hs, rfl, hend⟩ := h.wrappers k found hfound
    obtain ⟨source', hs', hchanged⟩ := source?_modifySource s available hs
    exact ⟨s', source', entries, disposed, hs', hchanged ▸ rfl, hend⟩
  handlers := h.handlers
  once := h.once
  attached := h.attached
  callers := h.callers
  unique := h.unique

/-- The wrapper of an adapter that exists. -/
theorem Wired.adapter {a : NetworkAdapter} (h : Wired o) (ha : o.HasAdapter a) :
    ∃ source entries disposed, o.source? a.source = some source ∧
      o.wrapper? a.wrapper = some (adapterWrapper a.source source.changed entries disposed) ∧
        (disposed = true → entries = []) := by
  obtain ⟨found, hfound, hnative⟩ := ha
  obtain ⟨s, source, entries, disposed, hs, rfl, hend⟩ := h.wrappers _ found hfound
  obtain rfl : s = a.source :=
    congrArg (fun native : Native => SourceId.mk native.identity) hnative
  exact ⟨source, entries, disposed, hs, hfound, hend⟩

/-! ## Changes -/

/-- One change of the objects. -/
inductive Change (o : Objects) : Objects → Prop
  | report (notices : List Log.Event) : Change o { o with notices }
  | callback : Change o o.addFunction
  | source (address : String) : Change o (o.addSource address)
  | adapter {s : SourceId} {source : StatusSource} (hs : o.source? s = some source) :
    Change o (o.addWrapper (adapterWrapper s source.changed [] false))
  /-- A native callback is made for a callback and recorded. -/
  | link {k : WrapperId} {s : SourceId} {e : EventId} {entries : List Registration}
    {f : FunctionId} {g : Wrapper → Wrapper} (hk : o.wrapper? k = some (adapterWrapper s e entries false))
    (hf : o.function f = ⟨f, []⟩)
    (hg : g (adapterWrapper s e entries false) = adapterWrapper s e (entries ++ [⟨f, o.nextFunction⟩]) false) :
    Change o ((o.addBridged f .availability).modifyWrapper k g)
  /-- Records are taken away, of native callbacks that the event does not have any more. -/
  | unlink {k : WrapperId} {s : SourceId} {e : EventId} {entries entries' : List Registration}
    {disposed disposed' : Bool} {g : Wrapper → Wrapper}
    (hk : o.wrapper? k = some (adapterWrapper s e entries disposed))
    (hg : g (adapterWrapper s e entries disposed) = adapterWrapper s e entries' disposed')
    (stays : disposed = true → disposed' = true) (ended : disposed' = true → entries' = [])
    (sub : entries' ⊆ entries)
    (gone : ∀ x ∈ entries, x ∈ entries' ∨ x.native ∉ (o.event e).handlers) :
    Change o (o.modifyWrapper k g)
  | remove {e : EventId} {g : Multicast FunctionId → Multicast FunctionId}
    (hg : (g (o.event e)).handlers.Sublist (o.event e).handlers) : Change o (o.modifyEvent e g)
  | add {e : EventId} {f : FunctionId} (has : o.HasFunction f)
    (fits : (o.function f).converters = [] ∨
      (∃ k, Attached o k e f) ∧ f ∉ (o.event e).handlers) :
    Change o (o.modifyEvent e (·.add f))

/-- Changes one after the other. -/
abbrev Changes : Objects → Objects → Prop := Relation.ReflTransGen Change

/-! ## What one change does -/

/-- What a change does to one wrapper. -/
inductive WrapperStep (o o' : Objects) (k : WrapperId) : Prop
  | kept (same : o'.wrapper? k = o.wrapper? k)
  | made {s : SourceId} {source : StatusSource} (hs : o.source? s = some source)
    (fresh : o.wrapper? k = none) (after : o'.wrapper? k = some (adapterWrapper s source.changed [] false))
  | relinked {s : SourceId} {e : EventId} {entries entries' : List Registration}
    {disposed disposed' : Bool} (before : o.wrapper? k = some (adapterWrapper s e entries disposed))
    (after : o'.wrapper? k = some (adapterWrapper s e entries' disposed'))
    (stays : disposed = true → disposed' = true) (ended : disposed' = true → entries' = [])
    (gained : ∀ x ∈ entries', x ∈ entries ∨
      x.native = o.nextFunction ∧ o'.HasFunction x.native ∧
        o'.function x.native = ⟨x.caller, [.availability]⟩ ∧ disposed = false)
    (lost : ∀ x ∈ entries, x ∈ entries' ∨ x.native ∉ (o'.event e).handlers)
    (others : ∀ k', k' ≠ k → o'.wrapper? k' = o.wrapper? k')

/-- What a change does to one event. -/
inductive EventStep (o o' : Objects) (e : EventId) : Prop
  | kept (sub : (o'.event e).handlers.Sublist (o.event e).handlers)
  | added {f : FunctionId} (after : o'.event e = (o.event e).add f)
    (wrappers : o'.wrappers = o.wrappers) (has : o.HasFunction f)
    (fits : (o.function f).converters = [] ∨ (∃ k, Attached o k e f) ∧ f ∉ (o.event e).handlers)

/-- What a change of one event does to an event. -/
theorem event_modifyEvent_cases (o : Objects) (e e' : EventId)
    (g : Multicast FunctionId → Multicast FunctionId) :
    (o.modifyEvent e g).event e' = o.event e' ∨
      e = e' ∧ (o.modifyEvent e g).event e' = g (o.event e') := by
  by_cases he : e = e'
  · subst he
    by_cases h : o.HasEvent e
    · exact Or.inr ⟨rfl, Objects.event_modifyEvent_self h g⟩
    · have hnone : o.events.get? e.index = none := List.getElem?_eq_none (Nat.le_of_not_lt h)
      exact Or.inl (by simp [Objects.event, Objects.modifyEvent, hnone])
  · exact Or.inl (Objects.event_modifyEvent_of_ne o he g)

theorem function_addBridged_next (o : Objects) (f : FunctionId) (converter : Converter) :
    (o.addBridged f converter).function o.nextFunction =
      ⟨(o.function f).endpoint, converter :: (o.function f).converters⟩ := by
  show ((o.functions.insert _).get? o.functions.next).getD _ = _
  rw [Registry.get?_insert_next]
  rfl

theorem hasFunction_addBridged_next (o : Objects) (f : FunctionId) (converter : Converter) :
    (o.addBridged f converter).HasFunction o.nextFunction := by
  simp [Objects.HasFunction, Objects.addBridged, Objects.nextFunction]

namespace Change

theorem wrapper (h : Change o o') (k : WrapperId) : WrapperStep o o' k := by
  cases h with
  | report | callback | source | remove | add => exact .kept rfl
  | @adapter s source hs =>
    by_cases hk : k.index = o.wrappers.next
    · refine .made hs ?_ ?_
      · exact Objects.wrapper?_eq_none (by simp [Objects.HasWrapper, hk])
      · rw [Objects.wrapper?, hk, Objects.addWrapper, Registry.get?_insert_next]
    · exact .kept (Registry.get?_insert_of_ne _ _ hk)
  | @link k₀ s e entries f g hk hf hg =>
    by_cases hne : k₀ = k
    · subst hne
      have after : ((o.addBridged f .availability).modifyWrapper k₀ g).wrapper? k₀ =
          some (adapterWrapper s e (entries ++ [⟨f, o.nextFunction⟩]) false) := by
        rw [Objects.wrapper?_modifyWrapper_self]
        exact (congrArg (Option.map g) hk).trans (congrArg some hg)
      refine .relinked hk after id (fun hd => absurd hd Bool.false_ne_true) ?_
        (fun x hx => Or.inl (List.mem_append_left _ hx)) ?_
      · intro x hx
        rcases List.mem_append.mp hx with hx | hx
        · exact Or.inl hx
        · obtain rfl := List.mem_singleton.mp hx
          refine Or.inr ⟨rfl, hasFunction_addBridged_next o f _, ?_, rfl⟩
          have hfunction := function_addBridged_next o f .availability
          rw [hf] at hfunction
          exact hfunction
      · exact fun k' hk' => Objects.wrapper?_modifyWrapper_of_ne _ (Ne.symm hk') _
    · exact .kept (Objects.wrapper?_modifyWrapper_of_ne _ hne _)
  | @unlink k₀ s e entries entries' disposed disposed' g hk hg stays ended sub gone =>
    by_cases hne : k₀ = k
    · subst hne
      refine .relinked hk ?_ stays ended (fun x hx => Or.inl (sub hx)) gone ?_
      · rw [Objects.wrapper?_modifyWrapper_self, hk, Option.map_some, hg]
      · exact fun k' hk' => Objects.wrapper?_modifyWrapper_of_ne _ (Ne.symm hk') _
    · exact .kept (Objects.wrapper?_modifyWrapper_of_ne _ hne _)

theorem event (h : Change o o') (e : EventId) : EventStep o o' e := by
  cases h with
  | report | callback | adapter | link | unlink => exact .kept (.refl _)
  | source address =>
    have hsame : (o.addSource address).event e = o.event e := Objects.event_addEvent o e
    exact .kept (hsame ▸ .refl _)
  | @remove e₀ g hg =>
    rcases event_modifyEvent_cases o e₀ e g with hsame | ⟨rfl, hevent⟩
    · exact .kept (hsame ▸ .refl _)
    · exact .kept (hevent ▸ hg)
  | @add e₀ f has fits =>
    rcases event_modifyEvent_cases o e₀ e (·.add f) with hsame | ⟨rfl, hevent⟩
    · exact .kept (hsame ▸ .refl _)
    · exact .added hevent rfl has fits

/-- Functions stay as they are. -/
theorem functionsKept (h : Change o o') : FunctionsKept o o' := by
  cases h with
  | report | source | adapter | unlink | remove | add => exact functionsKept_of_eq rfl
  | callback => exact functionsKept_insert _ rfl
  | link => exact functionsKept_insert _ rfl

/-- A new function converts as functions do. -/
theorem function (h : Change o o') (f : FunctionId) :
    o'.function f = o.function f ∨ (o'.function f).converters = [] ∨ Bridged o' f := by
  cases h with
  | report | source | adapter | unlink | remove | add => exact Or.inl rfl
  | callback =>
    by_cases hf : f.index = o.functions.next
    · refine Or.inr (Or.inl ?_)
      rw [Objects.function, hf, Objects.addFunction, Registry.get?_insert_next]
      rfl
    · refine Or.inl (congrArg (Option.getD · _) ?_)
      exact Registry.get?_insert_of_ne _ _ hf
  | @link k s e entries target g hk htarget hg =>
    by_cases hf : f = o.nextFunction
    · subst hf
      refine Or.inr (Or.inr ?_)
      have hfunction := function_addBridged_next o target .availability
      rw [htarget] at hfunction
      exact congrArg Function.converters hfunction
    · refine Or.inl (congrArg (Option.getD · _) (Registry.get?_insert_of_ne _ _ ?_))
      exact fun hindex => hf (congrArg FunctionId.mk hindex)

/-- Sources stay as they are. -/
theorem source? (h : Change o o') {source : StatusSource} (hs : o.source? s = some source) :
    o'.source? s = some source := by
  cases h with
  | report | callback | adapter | link | unlink | remove | add => exact hs
  | source address =>
    refine (Registry.get?_insert_of_ne _ _ (Nat.ne_of_lt ?_)).trans hs
    exact (List.getElem?_eq_some_iff.mp hs).1

/-! ## What follows for attached callbacks -/

/-- A disposed adapter stays disposed. -/
theorem disposed (h : Change o o') (hk : o.Disposed k) : o'.Disposed k := by
  obtain ⟨found, hfound, hdisposed⟩ := hk
  cases h.wrapper k with
  | kept same => exact ⟨found, same.trans hfound, hdisposed⟩
  | made hs fresh after => cases fresh.symm.trans hfound
  | relinked before after stays ended gained lost others =>
    obtain rfl := Option.some.inj (before.symm.trans hfound)
    exact ⟨_, after, stays hdisposed⟩

/-- What is attached was attached before, or is new and attached to an adapter that is live. -/
theorem attached_cases (h : Change o o') (hf : Attached o' k e f) :
    Attached o k e f ∨ f = o.nextFunction ∧ o'.HasFunction f ∧ Bridged o' f ∧ ¬ o.Disposed k ∧
      ∀ k', k' ≠ k → o'.wrapper? k' = o.wrapper? k' := by
  obtain ⟨s, entries, disposed, hk, hf⟩ := hf
  cases h.wrapper k with
  | kept same => exact Or.inl ⟨s, entries, disposed, same.symm.trans hk, hf⟩
  | made hs fresh after =>
    obtain ⟨_, _, rfl, _⟩ := adapterWrapper_inj (Option.some.inj (after.symm.trans hk))
    cases hf
  | relinked before after stays ended gained lost others =>
    obtain ⟨rfl, rfl, rfl, rfl⟩ := adapterWrapper_inj (Option.some.inj (after.symm.trans hk))
    obtain ⟨x, hx, rfl⟩ := List.mem_map.mp hf
    rcases gained x hx with hx | ⟨hnext, has, hfunction, rfl⟩
    · exact Or.inl ⟨_, _, _, before, List.mem_map_of_mem hx⟩
    · refine Or.inr ⟨hnext, has, congrArg Function.converters hfunction, ?_, others⟩
      rintro ⟨found, hfound, hdisposed⟩
      obtain rfl := Option.some.inj (before.symm.trans hfound)
      cases hdisposed

/-- What is attached stays attached while the event has it. -/
theorem attached_of_handler (h : Change o o') (hf : Attached o k e f)
    (hmem : f ∈ (o'.event e).handlers) : Attached o' k e f := by
  obtain ⟨s, entries, disposed, hk, hf⟩ := hf
  cases h.wrapper k with
  | kept same => exact ⟨s, entries, disposed, same.trans hk, hf⟩
  | made hs fresh after => cases fresh.symm.trans hk
  | relinked before after stays ended gained lost others =>
    obtain ⟨rfl, rfl, rfl, rfl⟩ := adapterWrapper_inj (Option.some.inj (before.symm.trans hk))
    obtain ⟨x, hx, rfl⟩ := List.mem_map.mp hf
    rcases lost x hx with hx | hgone
    · exact ⟨_, _, _, after, List.mem_map_of_mem hx⟩
    · exact absurd hmem hgone

/-- A function that exists converts as before. -/
theorem bridged_iff (h : Change o o') (has : o.HasFunction f) : Bridged o' f ↔ Bridged o f := by
  rw [Bridged, Bridged, (h.functionsKept f has).2]

theorem handler_attached (h : Change o o') (hw : Wired o) (hmem : f ∈ (o'.event e).handlers) :
    o'.HasFunction f ∧ (Bridged o' f → ∃ k, Attached o' k e f) := by
  have old : f ∈ (o.event e).handlers →
      o'.HasFunction f ∧ (Bridged o' f → ∃ k, Attached o' k e f) := by
    intro hold
    obtain ⟨has, hattached⟩ := hw.handlers e f hold
    refine ⟨(h.functionsKept f has).1, fun hbridged => ?_⟩
    obtain ⟨k, hk⟩ := hattached ((h.bridged_iff has).mp hbridged)
    exact ⟨k, h.attached_of_handler hk hmem⟩
  cases h.event e with
  | kept sub => exact old (sub.subset hmem)
  | @added new after wrappers has fits =>
    have hcases := hmem
    rw [after, Multicast.add] at hcases
    rcases List.mem_append.mp hcases with hold | hnew
    · exact old hold
    · obtain rfl := List.mem_singleton.mp hnew
      refine ⟨(h.functionsKept f has).1, fun hbridged => ?_⟩
      rcases fits with hown | ⟨⟨k, hk⟩, _⟩
      · have hold := (h.bridged_iff has).mp hbridged
        rw [Bridged, hown] at hold
        cases hold
      · exact ⟨k, h.attached_of_handler hk hmem⟩

theorem count_le_one (h : Change o o') (hw : Wired o) (hf : Bridged o' f) :
    (o'.event e).handlers.count f ≤ 1 := by
  have old : (o.event e).handlers.count f ≤ 1 := by
    by_cases hmem : f ∈ (o.event e).handlers
    · exact hw.once e f ((h.bridged_iff (hw.handlers e f hmem).1).mp hf)
    · rw [List.count_eq_zero.mpr hmem]
      exact Nat.zero_le _
  cases h.event e with
  | kept sub => exact Nat.le_trans (sub.count_le f) old
  | @added new after wrappers has fits =>
    rw [after, Multicast.add, List.count_append, List.count_singleton]
    split
    next heq =>
      obtain rfl : new = f := by simpa using heq
      rcases fits with hown | ⟨_, hnot⟩
      · have hold := (h.bridged_iff has).mp hf
        rw [Bridged, hown] at hold
        cases hold
      · have hnone := List.count_eq_zero.mpr hnot
        omega
    next => exact old

theorem caller (h : Change o o') (hw : Wired o) {x : Registration} (hx : x ∈ o'.registrations k) :
    o'.function x.native = ⟨x.caller, [.availability]⟩ := by
  have old : x ∈ o.registrations k → o'.function x.native = ⟨x.caller, [.availability]⟩ := by
    intro hold
    obtain ⟨e, hattached⟩ := hw.attached_of_registration hold
    rw [(h.functionsKept _ (hw.attached k e _ hattached).1).2]
    exact hw.callers k x hold
  cases h.wrapper k with
  | kept same =>
    refine old ?_
    rwa [Objects.registrations, Objects.table, same] at hx
  | made hs fresh after =>
    rw [registrations_of_wrapper after] at hx
    cases hx
  | relinked before after stays ended gained lost others =>
    rw [registrations_of_wrapper after] at hx
    rcases gained x hx with hx | ⟨_, _, hfunction, _⟩
    · exact old (registrations_of_wrapper before ▸ hx)
    · exact hfunction

/-- A change leaves the objects wired. -/
theorem wired (h : Change o o') (hw : Wired o) : Wired o' where
  functions := by
    intro f
    rcases h.function f with hsame | hnew
    · rw [Bridged, hsame]
      exact hw.functions f
    · exact hnew
  wrappers := by
    intro k found hfound
    cases h.wrapper k with
    | kept same =>
      obtain ⟨s, source, entries, disposed, hs, rest⟩ := hw.wrappers k found (same.symm.trans hfound)
      exact ⟨s, source, entries, disposed, h.source? hs, rest⟩
    | made hs fresh after =>
      obtain rfl := Option.some.inj (after.symm.trans hfound)
      exact ⟨_, _, [], false, h.source? hs, rfl, fun _ => rfl⟩
    | relinked before after stays ended gained lost others =>
      obtain rfl := Option.some.inj (after.symm.trans hfound)
      obtain ⟨s, source, entries, disposed, hs, hsame, hend⟩ := hw.wrappers k _ before
      obtain ⟨rfl, rfl, _, _⟩ := adapterWrapper_inj hsame
      exact ⟨_, source, _, _, h.source? hs, rfl, ended⟩
  handlers := fun e f hf => h.handler_attached hw hf
  once := fun e f hf => h.count_le_one hw hf
  attached := by
    intro k e f hf
    rcases h.attached_cases hf with hold | ⟨_, has, hbridged, _⟩
    · obtain ⟨has, hbridged⟩ := hw.attached k e f hold
      exact ⟨(h.functionsKept f has).1, (h.bridged_iff has).mpr hbridged⟩
    · exact ⟨has, hbridged⟩
  callers := fun k x hx => h.caller hw hx
  unique := by
    intro k e k' e' f hf hf'
    -- A new native callback is attached nowhere else, as it did not exist before.
    have fresh : ∀ k e, f = o.nextFunction → ¬ Attached o k e f := by
      rintro k e rfl hold
      exact Nat.lt_irrefl _ (hw.attached k e _ hold).1
    rcases h.attached_cases hf with hold | ⟨hnext, _, _, _, others⟩
    · rcases h.attached_cases hf' with hold' | ⟨hnext, _⟩
      · exact hw.unique k e k' e' f hold hold'
      · exact absurd hold (fresh k e hnext)
    · refine Decidable.byContradiction fun hne => ?_
      obtain ⟨s, entries, disposed, hk', hmem⟩ := hf'
      refine fresh k' e' hnext ⟨s, entries, disposed, ?_, hmem⟩
      exact (others k' (Ne.symm hne)).symm.trans hk'

end Change

/-! ## Several changes -/

namespace Changes

theorem wired (h : Changes o o') (hw : Wired o) : Wired o' := by
  induction h with
  | refl => exact hw
  | tail _ hchange ih => exact hchange.wired ih

theorem functionsKept (h : Changes o o') : FunctionsKept o o' := by
  induction h with
  | refl => exact functionsKept_of_eq rfl
  | tail _ hchange ih =>
    intro f has
    obtain ⟨has', hsame⟩ := ih f has
    obtain ⟨has'', hsame'⟩ := hchange.functionsKept f has'
    exact ⟨has'', hsame'.trans hsame⟩

theorem source? (h : Changes o o') {source : StatusSource} (hs : o.source? s = some source) :
    o'.source? s = some source := by
  induction h with
  | refl => exact hs
  | tail _ hchange ih => exact hchange.source? ih

theorem disposed (h : Changes o o') (hk : o.Disposed k) : o'.Disposed k := by
  induction h with
  | refl => exact hk
  | tail _ hchange ih => exact hchange.disposed ih

/-- What is attached was attached before, or it is new and its adapter was live. -/
theorem attached_cases (h : Changes o o') (hf : Attached o' k e f) :
    Attached o k e f ∨ ¬ o.HasFunction f ∧ ¬ o.Disposed k := by
  induction h with
  | refl => exact Or.inl hf
  | tail hchanges hchange ih =>
    rcases hchange.attached_cases hf with hold | ⟨rfl, _, _, hlive, _⟩
    · exact ih hold
    · refine Or.inr ⟨fun has => ?_, fun hk => hlive (disposed hchanges hk)⟩
      exact Nat.lt_irrefl _ (functionsKept hchanges _ has).1

end Changes
end Hostlink.Notifying
