import Hostlink.Proofs.Interleaving.Operation

/-!
# What locks guard

Each lock guards one part of the live objects: the table of a bridge, the handlers of an event, or
the mark that a wrapper's native object is closed.  `Effect.lock?` names the lock whose part an
effect changes; `guarded_apply_of_ne` says that every other part stays as it was.
-/

namespace Hostlink

namespace Objects

/-- Whether a close of the wrapper's native object has been recorded. -/
def closed (o : Objects) (w : WrapperId) : Bool := ((o.wrapper? w).map (·.closed)).getD false

/-! ## Parts of the objects after a change -/

theorem event_modifyEvent_self {o : Objects} {e : EventId} (h : o.HasEvent e)
    (f : Multicast FunctionId → Multicast FunctionId) :
    (o.modifyEvent e f).event e = f (o.event e) := by
  obtain ⟨handlers, hget⟩ : ∃ handlers, o.events.get? e.index = some handlers :=
    ⟨_, List.getElem?_eq_getElem h⟩
  simp [event, modifyEvent, hget]

theorem event_modifyEvent_of_ne (o : Objects) {e e' : EventId} (hne : e ≠ e')
    (f : Multicast FunctionId → Multicast FunctionId) :
    (o.modifyEvent e f).event e' = o.event e' := by
  have hindex : e.index ≠ e'.index := by
    intro h
    exact hne (by cases e; cases e'; simpa using h)
  simp [event, modifyEvent, Registry.get?_modify_other _ _ hindex]

/-- A new object under the next number looks like the default did before. -/
theorem getD_get?_insert {α : Type} (r : Registry α) (item : α) (index : Nat) :
    ((r.insert item).get? index).getD item = (r.get? index).getD item := by
  by_cases h : index = r.next
  · subst h
    rw [Registry.get?_insert_next]
    simp [Registry.get?, Registry.next]
  · rw [Registry.get?_insert_of_ne r item h]

theorem event_addEvent (o : Objects) (e : EventId) : o.addEvent.event e = o.event e :=
  getD_get?_insert o.events .empty e.index

theorem wrapper?_addWrapper_of_has {o : Objects} {w : WrapperId} (h : o.HasWrapper w)
    (wrapper : Wrapper) : (o.addWrapper wrapper).wrapper? w = o.wrapper? w :=
  Registry.get?_insert_of_ne o.wrappers wrapper (Nat.ne_of_lt h)

theorem wrapper?_eq_none {o : Objects} {w : WrapperId} (h : ¬ o.HasWrapper w) :
    o.wrapper? w = none :=
  List.getElem?_eq_none (Nat.le_of_not_lt h)

theorem exists_wrapper {o : Objects} {w : WrapperId} (h : o.HasWrapper w) :
    ∃ wrapper, o.wrapper? w = some wrapper :=
  ⟨_, List.getElem?_eq_getElem h⟩

theorem wrapper?_modifyWrapper_self (o : Objects) (w : WrapperId) (f : Wrapper → Wrapper) :
    (o.modifyWrapper w f).wrapper? w = (o.wrapper? w).map f := by
  simp [wrapper?, modifyWrapper]

theorem wrapper?_modifyWrapper_of_ne (o : Objects) {w w' : WrapperId} (hne : w ≠ w')
    (f : Wrapper → Wrapper) : (o.modifyWrapper w f).wrapper? w' = o.wrapper? w' := by
  have hindex : w.index ≠ w'.index := by
    intro h
    exact hne (by cases w; cases w'; simpa using h)
  exact Registry.get?_modify_other _ _ hindex

/-- What a fresh wrapper shows is what an unknown one shows. -/
theorem getD_wrapper?_addWrapper {α : Type} (o : Objects) (wrapper : Wrapper) (w : WrapperId)
    (f : Wrapper → α) :
    (((o.addWrapper wrapper).wrapper? w).map f).getD (f wrapper)
      = ((o.wrapper? w).map f).getD (f wrapper) := by
  by_cases h : w.index = o.wrappers.next
  · have hnone : o.wrapper? w = none := by
      refine wrapper?_eq_none ?_
      rw [HasWrapper, h]
      exact Nat.lt_irrefl _
    rw [hnone, wrapper?, addWrapper, h, Registry.get?_insert_next]
    rfl
  · have hsame : (o.addWrapper wrapper).wrapper? w = o.wrapper? w :=
      Registry.get?_insert_of_ne o.wrappers wrapper h
    rw [hsame]

theorem table_modifyTable_self {o : Objects} {b : BridgeId} (h : o.HasBridge b)
    (f : CallbackTable → CallbackTable) : (o.modifyTable b f).table b = f (o.table b) := by
  cases b with
  | standalone index =>
    obtain ⟨callbacks, hget⟩ : ∃ callbacks, o.bridges.get? index = some callbacks :=
      ⟨_, List.getElem?_eq_getElem h⟩
    simp [table, modifyTable, hget]
  | ofWrapper w =>
    obtain ⟨wrapper, hget⟩ := exists_wrapper h
    simp [table, modifyTable, wrapper?_modifyWrapper_self, hget]

theorem table_modifyTable_of_ne (o : Objects) {b b' : BridgeId} (hne : b ≠ b')
    (f : CallbackTable → CallbackTable) : (o.modifyTable b f).table b' = o.table b' := by
  cases b with
  | standalone index =>
    cases b' with
    | standalone index' =>
      have hindex : index ≠ index' := fun h => hne (by rw [h])
      simp [table, modifyTable, Registry.get?_modify_other _ _ hindex]
    | ofWrapper w' => rfl
  | ofWrapper w =>
    cases b' with
    | standalone index' => rfl
    | ofWrapper w' =>
      have hw : w ≠ w' := fun h => hne (by rw [h])
      simp [table, modifyTable, wrapper?_modifyWrapper_of_ne _ hw]

/-- A change of a wrapper that keeps its callbacks keeps every table. -/
theorem table_modifyWrapper (o : Objects) (w : WrapperId) (f : Wrapper → Wrapper)
    (hf : ∀ wrapper, (f wrapper).callbacks = wrapper.callbacks) (b : BridgeId) :
    (o.modifyWrapper w f).table b = o.table b := by
  cases b with
  | standalone index => rfl
  | ofWrapper w' =>
    by_cases h : w = w'
    · subst h
      cases hw : o.wrapper? w <;> simp [table, wrapper?_modifyWrapper_self, hw, hf]
    · simp [table, wrapper?_modifyWrapper_of_ne _ h]

/-- A change of a wrapper that keeps what is looked at keeps it for every wrapper. -/
theorem map_wrapper?_modifyWrapper {α : Type} (o : Objects) (w : WrapperId) (f : Wrapper → Wrapper)
    {g : Wrapper → α} (hf : ∀ wrapper, g (f wrapper) = g wrapper) (w' : WrapperId) :
    ((o.modifyWrapper w f).wrapper? w').map g = (o.wrapper? w').map g := by
  by_cases h : w = w'
  · subst h
    cases hw : o.wrapper? w <;> simp [wrapper?_modifyWrapper_self, hw, hf]
  · rw [wrapper?_modifyWrapper_of_ne _ h]

end Objects

/-! ## Guarded parts -/

/-- A part of the live objects that a lock guards. -/
inductive Guarded where
  | table (table : CallbackTable)
  | handlers (handlers : Multicast FunctionId)
  | closed (closed : Bool)

/-- The part that a lock guards. -/
def Lock.guarded (lock : Lock) (o : Objects) : Guarded :=
  match lock with
  | .table b => .table (o.table b)
  | .handlers e => .handlers (o.event e)
  | .closing w => .closed (o.closed w)

namespace Effect

/-- The lock whose part an effect changes. -/
def lock? : Effect → Option Lock
  | .addHandler e _ | .removeHandler e _ | .clearHandlers e => some (.handlers e)
  | .setHook b _ _ | .push b _ _ | .detach b _ _ | .drain b => some (.table b)
  | .markClosed w => some (.closing w)
  | _ => none

theorem table_apply_of_ne {effect : Effect} {b : BridgeId} (h : effect.lock? ≠ some (.table b))
    (o : Objects) : (effect.apply o).table b = o.table b := by
  cases effect
  case setHook b' _ _ | push b' _ _ | detach b' _ _ | drain b' =>
    have hne : b' ≠ b := fun heq => h (by rw [lock?, heq])
    exact Objects.table_modifyTable_of_ne o hne _
  case addBridge =>
    cases b with
    | standalone index => exact Objects.getD_get?_insert o.bridges .empty index
    | ofWrapper w => rfl
  case addWrapper ownership native =>
    cases b with
    | standalone index => rfl
    | ofWrapper w => exact Objects.getD_wrapper?_addWrapper o (.make ownership native) w (·.callbacks)
  case markDisposed w | markClosed w =>
    apply Objects.table_modifyWrapper
    exact fun _ => rfl
  all_goals cases b <;> rfl

theorem event_apply_of_ne {effect : Effect} {e : EventId} (h : effect.lock? ≠ some (.handlers e))
    (o : Objects) : (effect.apply o).event e = o.event e := by
  cases effect
  case addHandler e' _ | removeHandler e' _ | clearHandlers e' =>
    have hne : e' ≠ e := fun heq => h (by rw [lock?, heq])
    exact Objects.event_modifyEvent_of_ne o hne _
  case addEvent => exact Objects.event_addEvent o e
  case addSource => exact Objects.event_addEvent o e
  case setHook b _ _ | push b _ _ | detach b _ _ | drain b => cases b <;> rfl
  all_goals rfl

/-- What is looked at of a wrapper stays as it was, if no effect on the wrapper changes it. -/
theorem getD_wrapper?_apply {α : Type} {effect : Effect} {w : WrapperId} {g : Wrapper → α}
    (hcallbacks : ∀ wrapper callbacks, g { wrapper with callbacks } = g wrapper)
    (hdisposed : effect = .markDisposed w → ∀ wrapper, g { wrapper with disposed := true } = g wrapper)
    (hclosed : effect = .markClosed w → ∀ wrapper, g { wrapper with closed := true } = g wrapper)
    {o : Objects} {default : α}
    (hfresh : o.HasWrapper w ∨ ∀ ownership native, g (.make ownership native) = default) :
    (((effect.apply o).wrapper? w).map g).getD default = ((o.wrapper? w).map g).getD default := by
  cases effect
  case addWrapper ownership native =>
    rcases hfresh with hw | hfresh
    · rw [apply, Objects.wrapper?_addWrapper_of_has hw]
    · rw [← hfresh ownership native]
      exact Objects.getD_wrapper?_addWrapper o (.make ownership native) w g
  case markDisposed w' =>
    by_cases h : w' = w
    · subst h
      rw [apply, Objects.map_wrapper?_modifyWrapper _ _ _ (hdisposed rfl)]
    · rw [apply, Objects.wrapper?_modifyWrapper_of_ne _ h]
  case markClosed w' =>
    by_cases h : w' = w
    · subst h
      rw [apply, Objects.map_wrapper?_modifyWrapper _ _ _ (hclosed rfl)]
    · rw [apply, Objects.wrapper?_modifyWrapper_of_ne _ h]
  case setHook b _ _ | push b _ _ | detach b _ _ | drain b =>
    cases b with
    | standalone index => rfl
    | ofWrapper w' =>
      refine congrArg (·.getD default) (Objects.map_wrapper?_modifyWrapper o w' _ ?_ w)
      exact fun wrapper => hcallbacks wrapper _
  all_goals rfl

theorem closed_apply_of_ne {effect : Effect} {w : WrapperId} (h : effect.lock? ≠ some (.closing w))
    (o : Objects) : (effect.apply o).closed w = o.closed w := by
  refine getD_wrapper?_apply (g := Wrapper.closed) ?_ ?_ ?_ ?_
  · exact fun _ _ => rfl
  · exact fun _ _ => rfl
  · rintro rfl
    exact absurd rfl h
  · exact Or.inr fun _ _ => rfl

/-- An effect leaves alone what the locks of other parts guard. -/
theorem guarded_apply_of_ne {effect : Effect} {lock : Lock} (h : effect.lock? ≠ some lock)
    (o : Objects) : lock.guarded (effect.apply o) = lock.guarded o := by
  cases lock with
  | table b => exact congrArg Guarded.table (table_apply_of_ne h o)
  | handlers e => exact congrArg Guarded.handlers (event_apply_of_ne h o)
  | closing w => exact congrArg Guarded.closed (closed_apply_of_ne h o)

end Effect
end Hostlink
