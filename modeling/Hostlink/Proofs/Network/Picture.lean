import Hostlink.Proofs.Interleaving.Guarded
import Hostlink.Proofs.Network.Desk

/-!
# What desk and machine have in common

The desk splits the listeners of a source up: the event of the source has a native callback for each
of them, and each adapter has a table of its own.  A picture has the listeners once, with the native
callback of each.  `Shows` says that the live objects are split up in this way.
-/

namespace Hostlink

/-- Changing the only value of a map. -/
theorem SortedMap.modify_insert_empty {κ α : Type} [KeyOrder κ] (key : κ) (value : α)
    (f : Option α → α) :
    ((empty : SortedMap κ α).insert key value).modify key f =
      empty.insert key (f (some value)) := by
  simp [insert, modify, modifySorted, empty, KeyOrder.before_irrefl]

namespace CallbackTable

/-- The table of a single member. -/
def sole (key : MemberKey) (member : Member) (released : Bool) : CallbackTable :=
  ⟨SortedMap.empty.insert key member, released⟩

variable {key : MemberKey} {member : Member} {released : Bool}

theorem entries_sole : (sole key member released).entries key = member.entries := by
  rw [entries, member?, sole, SortedMap.insert, SortedMap.get?_modify_self]
  rfl

theorem modifyMember_sole (f : Member → Member) :
    (sole key member released).modifyMember key f = sole key (f member) released :=
  congrArg (CallbackTable.mk · released) (SortedMap.modify_insert_empty ..)

theorem batches_sole :
    (sole key member released).batches = [⟨member.hook, member.entries.map (·.native)⟩] := rfl

end CallbackTable

namespace Network

/-- An attached callback: the adapter it is attached to, and the native callback made for it. -/
structure Link where
  adapter : Nat
  callback : FunctionId
  native : FunctionId
  deriving DecidableEq, Repr

/-- A link as the machine has it. -/
def Link.listener (callbacks : List FunctionId) (l : Link) : Nat × Nat :=
  (l.adapter, callbacks.idxOf l.callback)

/-- A link as the table of its adapter has it. -/
def Link.registration (l : Link) : Registration := ⟨l.callback, l.native⟩

/-- A source with its links, in the order of attachment. -/
structure Picture.Source where
  available : Bool
  links : List Link
  deriving DecidableEq, Repr

/-- Callbacks, sources and adapters, by number. -/
structure Picture where
  callbacks : List FunctionId
  sources : List Picture.Source
  adapters : List Machine.Adapter
  deriving DecidableEq, Repr

namespace Picture

/-- Nothing has been made. -/
def empty : Picture := ⟨[], [], []⟩

/-! ## Changes -/

/-- Adds a callback. -/
def addCallback (p : Picture) (callback : FunctionId) : Picture :=
  { p with callbacks := p.callbacks ++ [callback] }

/-- Adds a source. -/
def addSource (p : Picture) : Picture := { p with sources := p.sources ++ [⟨false, []⟩] }

/-- Adds an adapter over a source. -/
def addAdapter (p : Picture) (source : Nat) : Picture :=
  { p with adapters := p.adapters ++ [⟨source, false⟩] }

/-- Changes a source. -/
def modifySource (p : Picture) (source : Nat) (f : Source → Source) : Picture :=
  { p with sources := p.sources.modify source f }

/-- Sets what a source has seen. -/
def setAvailable (p : Picture) (source : Nat) (available : Bool) : Picture :=
  p.modifySource source fun s => { s with available }

/-- Sets the links of a source. -/
def setLinks (p : Picture) (source : Nat) (links : List Link) : Picture :=
  p.modifySource source fun s => { s with links }

/-- Changes an adapter. -/
def modifyAdapter (p : Picture) (adapter : Nat) (f : Machine.Adapter → Machine.Adapter) : Picture :=
  { p with adapters := p.adapters.modify adapter f }

/-! ## The machine of a picture -/

/-- A source as the machine has it. -/
def Source.machine (callbacks : List FunctionId) (s : Source) : Machine.Source :=
  ⟨s.available, s.links.map (·.listener callbacks)⟩

/-- The machine forgets the native callbacks. -/
def machine (p : Picture) : Machine :=
  ⟨p.callbacks.length, p.sources.map (·.machine p.callbacks), p.adapters⟩

variable (p : Picture)

theorem machine_addSource : p.addSource.machine = p.machine.addSource := by
  simp [machine, addSource, Machine.addSource, Source.machine]

theorem machine_addCallback (callback : FunctionId)
    (h : ∀ s ∈ p.sources, ∀ l ∈ s.links, l.callback ∈ p.callbacks) :
    (p.addCallback callback).machine = p.machine.addCallback := by
  have hsources : p.sources.map (·.machine (p.callbacks ++ [callback])) =
      p.sources.map (·.machine p.callbacks) := by
    refine List.map_congr_left fun s hs => ?_
    refine congrArg (Machine.Source.mk s.available) (List.map_congr_left fun l hl => ?_)
    rw [Link.listener, List.idxOf_append, if_pos (h s hs l hl), Link.listener]
  rw [machine, addCallback, hsources, List.length_append]
  rfl

/-- What changes a source of the picture changes it in the machine. -/
theorem machine_modifySource {f : Source → Source} {f' : Machine.Source → Machine.Source}
    (h : ∀ s, (f s).machine p.callbacks = f' (s.machine p.callbacks)) (source : Nat) :
    (p.modifySource source f).machine =
      { p.machine with sources := p.machine.sources.modify source f' } := by
  have hsources : (p.sources.modify source f).map (·.machine p.callbacks) =
      (p.sources.map (·.machine p.callbacks)).modify source f' := by
    refine List.ext_getElem? fun n => ?_
    simp only [List.getElem?_map, List.getElem?_modify, Option.map_eq_map, Option.map_map]
    refine congrArg (Option.map · p.sources[n]?) (funext fun s => ?_)
    simp only [Function.comp_apply]
    split
    · exact h s
    · rfl
  exact congrArg (Machine.mk _ · _) hsources

theorem machine_setAvailable (source : Nat) (available : Bool) :
    (p.setAvailable source available).machine = p.machine.setAvailable source available :=
  p.machine_modifySource (fun _ => rfl) source

theorem machine_setLinks (source : Nat) (links : List Link) :
    (p.setLinks source links).machine =
      p.machine.setListeners source (links.map (·.listener p.callbacks)) :=
  p.machine_modifySource (fun _ => rfl) source

/-! ## The desk of a picture -/

/-- Sources and adapters are made in the order of their numbers. -/
def desk (o : Objects) : Desk :=
  ⟨o, p.callbacks, (List.range p.sources.length).map SourceId.mk,
    p.adapters.mapIdx fun k a => ⟨⟨k⟩, ⟨a.source⟩⟩⟩

/-- The wrapper of an adapter has those links of its source that are its own. -/
def wrapper (k : Nat) (a : Machine.Adapter) (links : List Link) : Wrapper where
  native := (SourceId.mk a.source).native
  ownership := .borrowed
  callbacks := .sole NetworkAdapter.availabilityChanged
    ⟨(links.filter (·.adapter = k)).map (·.registration), some (.removeFrom ⟨a.source⟩)⟩ a.disposed
  disposed := a.disposed
  closed := false

/-- A link is between things that exist, and its native callback leads to its callback. -/
structure LinkShown (p : Picture) (o : Objects) (l : Link) : Prop where
  callback : l.callback ∈ p.callbacks
  adapter : l.adapter < p.adapters.length
  native : o.HasFunction l.native
  function : o.function l.native = ⟨l.callback, [.availability]⟩

/-- A source has an event of its own number, with the native callbacks of its links. -/
structure SourceShown (p : Picture) (o : Objects) (i : Nat) (s : Source) : Prop where
  source : ∃ address, o.source? ⟨i⟩ = some ⟨address, s.available, ⟨i⟩⟩
  event : o.event ⟨i⟩ = ⟨s.links.map (·.native)⟩
  nodup : (s.links.map (·.native)).Nodup
  links : ∀ l ∈ s.links, LinkShown p o l

/-- An adapter has a wrapper of its own number, and once it is disposed no links. -/
structure AdapterShown (p : Picture) (o : Objects) (k : Nat) (a : Machine.Adapter) (s : Source) :
    Prop where
  source : p.sources[a.source]? = some s
  wrapper : o.wrapper? ⟨k⟩ = some (wrapper k a s.links)
  unlinked : a.disposed = true → ∀ l ∈ s.links, l.adapter ≠ k

/-- Whether the live objects show a picture. -/
structure Shows (p : Picture) (o : Objects) : Prop where
  distinct : p.callbacks.Nodup
  callbacks : ∀ f ∈ p.callbacks, o.HasFunction f ∧ o.function f = ⟨f, []⟩
  next_sources : o.sources.next = p.sources.length
  next_events : o.events.next = p.sources.length
  next_wrappers : o.wrappers.next = p.adapters.length
  sources : ∀ i s, p.sources[i]? = some s → SourceShown p o i s
  adapters : ∀ k a, p.adapters[k]? = some a → ∃ s, AdapterShown p o k a s

end Picture
end Network
end Hostlink
