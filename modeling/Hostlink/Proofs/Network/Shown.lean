import Hostlink.Proofs.Network.Picture

/-!
# Objects and their picture change together

Objects that show a picture show a changed picture after each kind of change that operations on
sources and adapters make.  `Shows.relink` is the one for links that come and go.
-/

namespace Hostlink.Network.Picture

variable {p p' : Picture} {o o' : Objects} {i k : Nat} {s : Source} {a : Machine.Adapter}

/-- Whether functions are as they were, apart from new ones. -/
def FunctionsKept (o o' : Objects) : Prop :=
  ∀ f, o.HasFunction f → o'.HasFunction f ∧ o'.function f = o.function f

/-- A new function leaves the others. -/
theorem functionsKept_insert (function : Function)
    (h : o'.functions = o.functions.insert function) : FunctionsKept o o' := by
  intro f hf
  constructor
  · rw [Objects.HasFunction, h, Registry.next_insert]
    exact Nat.lt_succ_of_lt hf
  · rw [Objects.function, h, Registry.get?_insert_of_ne _ _ (Nat.ne_of_lt hf), Objects.function]

theorem functionsKept_of_eq (h : o'.functions = o.functions) : FunctionsKept o o' := by
  intro f hf
  rw [Objects.HasFunction, Objects.function, h]
  exact ⟨hf, rfl⟩

theorem LinkShown.mono {l : Link} (h : LinkShown p o l) (hfunctions : FunctionsKept o o')
    (hcallbacks : ∀ f ∈ p.callbacks, f ∈ p'.callbacks)
    (hadapters : p.adapters.length ≤ p'.adapters.length) : LinkShown p' o' l where
  callback := hcallbacks _ h.callback
  adapter := Nat.lt_of_lt_of_le h.adapter hadapters
  native := (hfunctions _ h.native).1
  function := (hfunctions _ h.native).2.trans h.function

/-- A source stays shown while it and its event do not change. -/
theorem SourceShown.mono (h : SourceShown p o i s) (hfunctions : FunctionsKept o o')
    (hcallbacks : ∀ f ∈ p.callbacks, f ∈ p'.callbacks)
    (hadapters : p.adapters.length ≤ p'.adapters.length) (hsource : o'.source? ⟨i⟩ = o.source? ⟨i⟩)
    (hevent : o'.event ⟨i⟩ = o.event ⟨i⟩) : SourceShown p' o' i s where
  source := hsource ▸ h.source
  event := hevent.trans h.event
  nodup := h.nodup
  links := fun l hl => (h.links l hl).mono hfunctions hcallbacks hadapters

/-- What stands in a list with one more at its end. -/
theorem of_getElem?_concat {α : Type} {xs : List α} {x y : α} {n : Nat}
    (h : (xs ++ [x])[n]? = some y) : n < xs.length ∧ xs[n]? = some y ∨ n = xs.length ∧ y = x := by
  rcases Nat.lt_or_ge n xs.length with hn | hn
  · exact Or.inl ⟨hn, by rwa [List.getElem?_append_left hn] at h⟩
  · rw [List.getElem?_append_right hn, List.getElem?_singleton] at h
    grind

theorem getElem?_modifySource {f : Source → Source} (hs : p.sources[k]? = some s) :
    (p.modifySource i f).sources[k]? = some (if i = k then f s else s) := by
  simp [modifySource, List.getElem?_modify, hs]

theorem of_getElem?_modifySource {f : Source → Source}
    (h : (p.modifySource i f).sources[k]? = some s) :
    ∃ s₀, p.sources[k]? = some s₀ ∧ s = if i = k then f s₀ else s₀ := by
  rw [modifySource, List.getElem?_modify] at h
  obtain ⟨s₀, hs₀, hs⟩ := Option.map_eq_some_iff.mp h
  exact ⟨s₀, hs₀, hs.symm⟩

namespace Shows

theorem empty : Picture.empty.Shows .empty where
  distinct := .nil
  callbacks := by simp [Picture.empty]
  next_sources := rfl
  next_events := rfl
  next_wrappers := rfl
  sources := by simp [Picture.empty]
  adapters := by simp [Picture.empty]

/-- Only sources, events, wrappers and the functions in use matter. -/
theorem frame (h : p.Shows o) (hfunctions : FunctionsKept o o') (hsources : o'.sources = o.sources)
    (hevents : o'.events = o.events) (hwrappers : o'.wrappers = o.wrappers) : p.Shows o' where
  distinct := h.distinct
  callbacks := by
    intro f hf
    obtain ⟨hhas, hfunction⟩ := h.callbacks f hf
    exact ⟨(hfunctions f hhas).1, (hfunctions f hhas).2.trans hfunction⟩
  next_sources := hsources ▸ h.next_sources
  next_events := hevents ▸ h.next_events
  next_wrappers := hwrappers ▸ h.next_wrappers
  sources := by
    intro i s hs
    refine (h.sources i s hs).mono hfunctions (fun _ hf => hf) (Nat.le_refl _) ?_ ?_
    · rw [Objects.source?, Objects.source?, hsources]
    · rw [Objects.event, Objects.event, hevents]
  adapters := by
    intro k a ha
    obtain ⟨s, shown⟩ := h.adapters k a ha
    refine ⟨s, shown.source, ?_, shown.unlinked⟩
    rw [Objects.wrapper?, hwrappers]
    exact shown.wrapper

/-- The log events do not matter. -/
theorem withNotices (h : p.Shows o) (notices : List Log.Event) : p.Shows { o with notices } :=
  h.frame (functionsKept_of_eq rfl) rfl rfl rfl

/-- A native callback in use by nothing yet. -/
theorem addBridged (h : p.Shows o) (target : FunctionId) (converter : Converter) :
    p.Shows (o.addBridged target converter) :=
  h.frame (functionsKept_insert _ rfl) rfl rfl rfl

theorem not_hasFunction_next : ¬ o.HasFunction o.nextFunction := Nat.lt_irrefl _

theorem addCallback (h : p.Shows o) : (p.addCallback o.nextFunction).Shows o.addFunction where
  distinct := by
    refine List.nodup_append.mpr ⟨h.distinct, by simp, ?_⟩
    rintro f hf _ hnext rfl
    rw [List.mem_singleton.mp hnext] at hf
    exact not_hasFunction_next (h.callbacks _ hf).1
  callbacks := by
    intro f hf
    rcases List.mem_append.mp hf with hf | hf
    · obtain ⟨hhas, hfunction⟩ := h.callbacks f hf
      have hkept : FunctionsKept o o.addFunction := functionsKept_insert _ rfl
      obtain ⟨hhas', hsame⟩ := hkept f hhas
      exact ⟨hhas', hsame.trans hfunction⟩
    · obtain rfl := List.mem_singleton.mp hf
      exact ⟨by simp [Objects.HasFunction, Objects.addFunction, Objects.nextFunction],
        by simp [Objects.function, Objects.addFunction, Objects.nextFunction]⟩
  next_sources := h.next_sources
  next_events := h.next_events
  next_wrappers := h.next_wrappers
  sources := fun i s hs => (h.sources i s hs).mono (functionsKept_insert _ rfl)
    (fun _ hf => List.mem_append_left _ hf) (Nat.le_refl _) rfl rfl
  adapters := by
    intro k a ha
    obtain ⟨s, shown⟩ := h.adapters k a ha
    exact ⟨s, shown.source, shown.wrapper, shown.unlinked⟩

theorem addSource (h : p.Shows o) (address : String) : p.addSource.Shows (o.addSource address) where
  distinct := h.distinct
  callbacks := h.callbacks
  next_sources := by simp [Objects.addSource, Objects.addEvent, Picture.addSource, h.next_sources]
  next_events := by simp [Objects.addSource, Objects.addEvent, Picture.addSource, h.next_events]
  next_wrappers := h.next_wrappers
  sources := by
    intro i s hs
    rcases of_getElem?_concat hs with ⟨hi, hs⟩ | ⟨rfl, rfl⟩
    · refine (h.sources i s hs).mono (functionsKept_of_eq rfl) (fun _ hf => hf) (Nat.le_refl _)
        ?_ ?_
      · exact Registry.get?_insert_of_ne _ _ (by rw [← h.next_sources] at hi; exact Nat.ne_of_lt hi)
      · exact Objects.event_addEvent o _
    · refine ⟨⟨address, ?_⟩, ?_, .nil, by simp⟩
      · have hchanged : o.nextEvent = ⟨p.sources.length⟩ := congrArg EventId.mk h.next_events
        show (o.sources.insert ⟨address, false, o.nextEvent⟩).get? p.sources.length = _
        rw [hchanged, ← h.next_sources, Registry.get?_insert_next]
      · show ((o.events.insert .empty).get? p.sources.length).getD .empty = ⟨[]⟩
        rw [← h.next_events, Registry.get?_insert_next]
        rfl
  adapters := by
    intro k a ha
    obtain ⟨s, shown⟩ := h.adapters k a ha
    refine ⟨s, ?_, shown.wrapper, shown.unlinked⟩
    exact List.getElem?_append_left (List.getElem?_eq_some_iff.mp shown.source).1 ▸ shown.source

theorem addAdapter (h : p.Shows o) (hs : p.sources[i]? = some s) :
    (p.addAdapter i).Shows ((o.addWrapper (.make .borrowed (SourceId.mk i).native)).modifyTable
      (.ofWrapper o.nextWrapper)
        (·.setHook NetworkAdapter.availabilityChanged (.removeFrom ⟨i⟩))) where
  distinct := h.distinct
  callbacks := h.callbacks
  next_sources := h.next_sources
  next_events := h.next_events
  next_wrappers := by
    simp [Objects.modifyTable, Objects.modifyWrapper, Objects.addWrapper, Picture.addAdapter,
      h.next_wrappers]
  sources := fun i s hs => (h.sources i s hs).mono (functionsKept_of_eq rfl) (fun _ hf => hf)
    (by simp [Picture.addAdapter]) rfl rfl
  adapters := by
    intro k a ha
    rcases of_getElem?_concat ha with ⟨hk, ha⟩ | ⟨rfl, rfl⟩
    · obtain ⟨s, shown⟩ := h.adapters k a ha
      refine ⟨s, shown.source, ?_, shown.unlinked⟩
      rw [← h.next_wrappers] at hk
      rw [Objects.modifyTable, Objects.wrapper?_modifyWrapper_of_ne _ (by
        rw [Objects.nextWrapper, ne_eq, WrapperId.mk.injEq]
        exact Nat.ne_of_gt hk), Objects.wrapper?_addWrapper_of_has hk]
      exact shown.wrapper
    · refine ⟨s, hs, ?_, by simp⟩
      have hnone : s.links.filter (·.adapter = p.adapters.length) = [] := by
        rw [List.filter_eq_nil_iff]
        intro l hl
        simpa using Nat.ne_of_lt ((h.sources i s hs).links l hl).adapter
      have hempty : (CallbackTable.empty.setHook NetworkAdapter.availabilityChanged
          (.removeFrom ⟨i⟩)) = .sole NetworkAdapter.availabilityChanged
            ⟨[], some (.removeFrom ⟨i⟩)⟩ false := rfl
      show ((o.wrappers.insert _).modify o.wrappers.next _).get? p.adapters.length = _
      rw [← h.next_wrappers, Registry.get?_modify_index, Registry.get?_insert_next, wrapper,
        h.next_wrappers, hnone, List.map_nil, ← hempty]
      rfl

theorem setAvailable (h : p.Shows o) (i : Nat) (available : Bool) :
    (p.setAvailable i available).Shows (o.modifySource ⟨i⟩ ({ · with available })) where
  distinct := h.distinct
  callbacks := h.callbacks
  next_sources := by
    simp [Objects.modifySource, Picture.setAvailable, modifySource, h.next_sources]
  next_events := by simp [Objects.modifySource, Picture.setAvailable, modifySource, h.next_events]
  next_wrappers := h.next_wrappers
  sources := by
    intro j s hs
    obtain ⟨s₀, hs₀, rfl⟩ := of_getElem?_modifySource hs
    obtain ⟨⟨address, hsource⟩, hevent, hnodup, hlinks⟩ := h.sources j s₀ hs₀
    split
    next hij =>
      subst hij
      refine ⟨⟨address, ?_⟩, hevent, hnodup, fun l hl => ?_⟩
      · rw [Objects.source?, Objects.modifySource, Registry.get?_modify_index]
        exact congrArg (Option.map _) hsource
      · exact (hlinks l hl).mono (functionsKept_of_eq rfl) (fun _ hf => hf) (Nat.le_refl _)
    next hij =>
      refine SourceShown.mono ⟨⟨address, hsource⟩, hevent, hnodup, hlinks⟩
        (functionsKept_of_eq rfl) (fun _ hf => hf) (Nat.le_refl _) ?_ rfl
      exact Registry.get?_modify_other _ _ hij
  adapters := by
    intro k a ha
    obtain ⟨s, shown⟩ := h.adapters k a ha
    refine ⟨_, getElem?_modifySource shown.source, ?_, ?_⟩
    · split <;> exact shown.wrapper
    · split <;> exact shown.unlinked

/-- New links of a source that differ from the old ones in those of one adapter only. -/
theorem relink (h : p.Shows o) {f : Machine.Adapter → Machine.Adapter} {g : Wrapper → Wrapper}
    {g' : Multicast FunctionId → Multicast FunctionId} {links : List Link}
    (ha : p.adapters[k]? = some a) (hs : p.sources[a.source]? = some s)
    (hfunctions : o'.functions = o.functions) (hsources : o'.sources = o.sources)
    (hwrappers : o'.wrappers = o.wrappers.modify k g)
    (hevents : o'.events = o.events.modify a.source g')
    (hf : (f a).source = a.source)
    (hg : g (wrapper k a s.links) = wrapper k (f a) links)
    (hg' : g' ⟨s.links.map (·.native)⟩ = ⟨links.map (·.native)⟩)
    (hothers : ∀ j, j ≠ k → links.filter (·.adapter = j) = s.links.filter (·.adapter = j))
    (hlinks : ∀ l ∈ links, LinkShown p o l) (hnodup : (links.map (·.native)).Nodup)
    (hend : (f a).disposed = true → ∀ l ∈ links, l.adapter ≠ k) :
    ((p.setLinks a.source links).modifyAdapter k f).Shows o' where
  distinct := h.distinct
  callbacks := by
    intro f hf
    obtain ⟨hhas, hfunction⟩ := h.callbacks f hf
    obtain ⟨hhas', hsame⟩ := functionsKept_of_eq hfunctions f hhas
    exact ⟨hhas', hsame.trans hfunction⟩
  next_sources := by simp [modifyAdapter, setLinks, modifySource, hsources, h.next_sources]
  next_events := by simp [modifyAdapter, setLinks, modifySource, hevents, h.next_events]
  next_wrappers := by simp [modifyAdapter, setLinks, modifySource, hwrappers, h.next_wrappers]
  sources := by
    intro j s' hs'
    obtain ⟨s₀, hs₀, rfl⟩ := of_getElem?_modifySource hs'
    have hlength : p.adapters.length ≤
        ((p.setLinks a.source links).modifyAdapter k f).adapters.length := by
      simp [modifyAdapter, setLinks, modifySource]
    have hsource : ∀ j, o'.source? j = o.source? j := fun j => by
      rw [Objects.source?, hsources, Objects.source?]
    -- The source of the adapter has the new links; every other source is as it was.
    split
    next hj =>
      subst hj
      obtain rfl : s₀ = s := Option.some_inj.mp (hs₀.symm.trans hs)
      have shown := h.sources _ _ hs
      refine ⟨hsource _ ▸ shown.source, ?_, hnodup, fun l hl =>
        (hlinks l hl).mono (functionsKept_of_eq hfunctions) (fun _ hf => hf) hlength⟩
      have hhas : o.HasEvent ⟨a.source⟩ := by
        rw [Objects.HasEvent, h.next_events]
        exact (List.getElem?_eq_some_iff.mp hs).1
      rw [Objects.event, hevents]
      show (o.modifyEvent ⟨a.source⟩ g').event ⟨a.source⟩ = _
      rw [Objects.event_modifyEvent_self hhas, shown.event, hg']
    next hj =>
      refine (h.sources j s₀ hs₀).mono (functionsKept_of_eq hfunctions) (fun _ hf => hf) hlength
        (hsource _) ?_
      rw [Objects.event, hevents, Registry.get?_modify_other _ _ hj, Objects.event]
  adapters := by
    intro j a' ha'
    have hlookup : (p.adapters.modify k f)[j]? = some a' := ha'
    rw [List.getElem?_modify] at hlookup
    obtain ⟨a₀, ha₀, rfl⟩ := Option.map_eq_some_iff.mp hlookup
    obtain ⟨s₀, shown⟩ := h.adapters j a₀ ha₀
    -- Another adapter over the same source sees new links too, but the same ones of its own.
    split
    next hj =>
      subst hj
      obtain rfl : a₀ = a := Option.some_inj.mp (ha₀.symm.trans ha)
      obtain rfl : s₀ = s := Option.some_inj.mp (shown.source.symm.trans hs)
      refine ⟨{ s₀ with links }, ?_, ?_, hend⟩
      · rw [hf]
        exact (getElem?_modifySource hs).trans (by rw [if_pos rfl])
      · rw [Objects.wrapper?, hwrappers, Registry.get?_modify_index, ← hg]
        exact congrArg (Option.map g) shown.wrapper
    next hj =>
      refine ⟨_, getElem?_modifySource shown.source, ?_, ?_⟩
      · rw [Objects.wrapper?, hwrappers, Registry.get?_modify_other _ _ hj]
        refine (show o.wrapper? ⟨j⟩ = _ from shown.wrapper).trans ?_
        split
        next hi =>
          obtain rfl : s₀ = s := Option.some_inj.mp (shown.source.symm.trans (hi ▸ hs))
          rw [wrapper, wrapper, hothers j (Ne.symm hj)]
        next => rfl
      · split
        next hi =>
          obtain rfl : s₀ = s := Option.some_inj.mp (shown.source.symm.trans (hi ▸ hs))
          intro hdisposed l hl hadapter
          have hmem : l ∈ s₀.links.filter (·.adapter = j) := by
            rw [← hothers j (Ne.symm hj)]
            exact List.mem_filter.mpr ⟨hl, by simpa using hadapter⟩
          exact shown.unlinked hdisposed l (List.mem_filter.mp hmem).1 hadapter
        next => exact shown.unlinked

end Shows
end Hostlink.Network.Picture
