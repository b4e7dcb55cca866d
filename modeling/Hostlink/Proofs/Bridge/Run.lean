import Hostlink.Proofs.Bridge.Attaching

/-!
# A table during a run

`TableStep` says what one deed can do to the table of a bridge.  By induction on the run the table
follows from the ledgers: a hook is the last one that was set, the registrations are those recorded
and not yet taken away, and under each key they come in the order in which they were recorded.

No native callback is recorded twice, because each is made anew for one call.
-/

namespace Hostlink.Interleaving

open Occurrence

variable {rule : Rule} {s : State} {x : Occurrence}

/-- The hook that is set for a key. -/
def Occurrence.hooked (b : BridgeId) (key : MemberKey) (x : Occurrence) : List Hook :=
  match x.deed with
  | .did (.setHook b' key' hook) => if b' = b ∧ key' = key then [hook] else []
  | _ => []

/-! ## One deed -/

/-- What one deed does to a table. -/
inductive TableStep (b : BridgeId) (x : Occurrence) (t : CallbackTable) : CallbackTable → Prop
  | other (pushed : x.pushed b = []) (detached : x.detached b = []) (drained : x.drained b = [])
    (drains : ¬ x.Drains b) (hooked : ∀ key, x.hooked b key = []) : TableStep b x t t
  | setHook (key : MemberKey) (hook : Hook) (deed : x.deed = .did (.setHook b key hook)) :
    TableStep b x t (t.setHook key hook)
  | push (key : MemberKey) (entry : Registration) (deed : x.deed = .did (.push b key entry)) :
    TableStep b x t (t.push key entry)
  | detach (key : MemberKey) (caller : FunctionId) (deed : x.deed = .did (.detach b key caller)) :
    TableStep b x t (t.detach key caller)
  | drain (deed : x.Drains b) : TableStep b x t t.drained

/-- A bridge whose table is changed exists. -/
theorem hasBridge_of_effects {op : Operation} {effect : Effect} {b : BridgeId} {o : Objects}
    (hvalid : op.Valid o) (heffect : op.Effects effect) (hlock : effect.lock? = some (.table b)) :
    o.HasBridge b := by
  cases effect
  case setHook b' key hook =>
    cases hlock
    rw [show op = .registerMember b key hook from heffect] at hvalid
    exact hvalid
  case push b' key entry =>
    cases hlock
    obtain ⟨converter, registrar, rfl⟩ := heffect
    exact hvalid.1
  case detach b' key caller =>
    cases hlock
    rcases heffect with rfl | ⟨e, rfl⟩
    · exact hvalid.1
    · exact hvalid.1
  case drain b' =>
    cases hlock
    rcases heffect with rfl | ⟨w, rfl, rfl | rfl⟩
    · exact hvalid
    · exact hvalid
    · exact hvalid
  all_goals cases hlock

theorem Next.effects (h : Next rule s x) {effect : Effect} (hdeed : x.deed = .did effect) :
    x.operation.Effects effect := by
  have habides := h.obeys keeps_abiding
  simp only [abiding, hdeed] at habides
  exact habides.1

/-- Every effect of a run is one that its operation can have. -/
theorem Reachable.effects (hs : Reachable rule s) (hx : x ∈ s.history) {effect : Effect}
    (hdeed : x.deed = .did effect) : x.operation.Effects effect := by
  obtain ⟨_, s', _, _, hnext⟩ := hs.exists_next hx
  exact hnext.effects hdeed

/-- Every deed of a run does one of these things to a table. -/
theorem Next.tableStep (h : Next rule s x) (b : BridgeId) :
    TableStep b x (s.objects.table b) ((x.deed.apply s.objects).table b) := by
  by_cases hlock : ∃ effect, x.deed = .did effect ∧ effect.lock? = some (.table b)
  · obtain ⟨effect, hdeed, hlock⟩ := hlock
    have hbridge := hasBridge_of_effects h.valid (h.effects hdeed) hlock
    have htable : ∀ f, (s.objects.modifyTable b f).table b = f (s.objects.table b) :=
      Objects.table_modifyTable_self hbridge
    rw [hdeed]
    cases effect
    case setHook b' key hook =>
      cases hlock
      exact htable _ ▸ .setHook key hook hdeed
    case push b' key entry =>
      cases hlock
      exact htable _ ▸ .push key entry hdeed
    case detach b' key caller =>
      cases hlock
      exact htable _ ▸ .detach key caller hdeed
    case drain b' =>
      cases hlock
      exact htable _ ▸ .drain hdeed
    all_goals cases hlock
  · rw [Deed.table_apply_of_ne fun effect hdeed heq => hlock ⟨effect, hdeed, heq⟩]
    have hno : ∀ effect, effect.lock? = some (.table b) → x.deed ≠ .did effect :=
      fun effect heq hdeed => hlock ⟨effect, hdeed, heq⟩
    refine .other ?_ ?_ ?_ ?_ ?_
    · exact pushed_eq_nil fun key entry => hno _ rfl
    · exact detached_eq_nil fun key caller => hno _ rfl
    · exact (owed_of_not_drains (hno _ rfl)).2
    · exact hno _ rfl
    · intro key
      unfold hooked
      split
      next hdeed => exact if_neg fun heq => hno _ (by rw [Effect.lock?, heq.1]) hdeed
      next => rfl

/-! ## The table follows from the ledgers -/

/-- The hook of a member is the one that was set last. -/
theorem Reachable.hook? (hs : Reachable rule s) (b : BridgeId) (key : MemberKey) :
    (s.objects.table b).hook? key = (collect (hooked b key) s.history).getLast? := by
  refine hs.induct (I := fun o h => (o.table b).hook? key = (collect (hooked b key) h).getLast?)
    ?_ ?_
  · cases b <;> rfl
  intro s x _ hnext ih
  have hstep := hnext.tableStep b
  generalize (x.deed.apply s.objects).table b = t at hstep
  rw [collect_cons]
  cases hstep with
  | other _ _ _ _ hhooked => rw [hhooked, List.append_nil, ih]
  | setHook key' hook hdeed =>
    by_cases hkey : key' = key
    · subst hkey
      simp [hooked, hdeed, CallbackTable.hook?_setHook_self]
    · simp [hooked, hdeed, hkey, CallbackTable.hook?_setHook_of_ne _ (Ne.symm hkey), ih]
  | push key' entry hdeed => simp [hooked, hdeed, CallbackTable.hook?_push, ih]
  | detach key' caller hdeed => simp [hooked, hdeed, CallbackTable.hook?_detach, ih]
  | drain hdeed => simp [hooked, show x.deed = _ from hdeed, CallbackTable.hook?_drained, ih]

/-- Every registration that was recorded is in the table, or it has been taken back or drained. -/
theorem Reachable.places (hs : Reachable rule s) (b : BridgeId) :
    (collect (pushed b) s.history).Perm ((s.objects.table b).registrations ++
      (collect (detached b) s.history ++ collect (drained b) s.history)) := by
  refine hs.induct (I := fun o h => (collect (pushed b) h).Perm ((o.table b).registrations ++
    (collect (detached b) h ++ collect (drained b) h))) ?_ ?_
  · cases b <;> exact List.Perm.refl _
  intro s x _ hnext ih
  have hobjects := hnext.objects
  have hstep := hnext.tableStep b
  generalize (x.deed.apply s.objects).table b = t at hstep
  simp only [collect_cons]
  cases hstep with
  | other hpushed hdetached hdrained => simpa [hpushed, hdetached, hdrained] using ih
  | setHook key hook hdeed =>
    simpa [pushed, detached, drained, hdeed, CallbackTable.registrations_setHook] using ih
  | push key entry hdeed =>
    have hpush := (s.objects.table b).registrations_push key entry
    simp only [pushed, detached, drained, hdeed, ↓reduceIte, List.append_nil]
    refine List.perm_iff_count.mpr fun a => ?_
    have hcount := ih.count_eq a
    have hcount' := hpush.count_eq a
    simp only [List.count_append, List.count_cons, List.count_nil] at hcount hcount' ⊢
    omega
  | detach key caller hdeed =>
    simp only [pushed, detached, drained, hdeed, ↓reduceIte, List.append_nil, hobjects]
    cases hfound : (s.objects.table b).first? key caller with
    | none =>
      rw [CallbackTable.detach_eq_self _ _ _ hfound]
      simpa using ih
    | some entry =>
      have hdetach := CallbackTable.registrations_detach hfound
      refine List.perm_iff_count.mpr fun a => ?_
      have hcount := ih.count_eq a
      have hcount' := hdetach.count_eq a
      simp only [Option.toList_some, List.map_cons, List.map_nil, List.count_append,
        List.count_cons, List.count_nil] at hcount hcount' ⊢
      omega
  | drain hdeed =>
    simp only [pushed, detached, drained, show x.deed = _ from hdeed, ↓reduceIte, List.append_nil,
      hobjects, CallbackTable.registrations_drained, List.nil_append]
    refine List.perm_iff_count.mpr fun a => ?_
    have hcount := ih.count_eq a
    simp only [List.count_append] at hcount ⊢
    omega

/-- Under each key the registrations come in the order in which they were recorded. -/
theorem Reachable.entries_sublist (hs : Reachable rule s) (b : BridgeId) (key : MemberKey) :
    ((s.objects.table b).entries key).Sublist
      (((collect (pushed b) s.history).filter (·.1 = key)).map (·.2)) := by
  refine hs.induct (I := fun o h => ((o.table b).entries key).Sublist
    (((collect (pushed b) h).filter (·.1 = key)).map (·.2))) ?_ ?_
  · cases b <;> exact List.nil_sublist _
  intro s x _ hnext ih
  have hstep := hnext.tableStep b
  generalize (x.deed.apply s.objects).table b = t at hstep
  rw [collect_cons, List.filter_append, List.map_append]
  cases hstep with
  | other hpushed => simpa [hpushed] using ih
  | setHook key' hook hdeed => simpa [pushed, hdeed, CallbackTable.entries_setHook] using ih
  | push key' entry hdeed =>
    by_cases hkey : key' = key
    · subst hkey
      rw [CallbackTable.entries_push_self]
      simpa [pushed, hdeed] using ih
    · rw [CallbackTable.entries_push_of_ne _ (Ne.symm hkey)]
      simpa [pushed, hdeed, hkey] using ih
  | detach key' caller hdeed =>
    have hrest : ((s.objects.table b).detach key' caller).entries key |>.Sublist
        ((s.objects.table b).entries key) := by
      by_cases hkey : key' = key
      · subst hkey
        rw [CallbackTable.entries_detach_self]
        exact List.eraseP_sublist
      · have hsame := CallbackTable.entries_detach_of_ne (s.objects.table b) (Ne.symm hkey) caller
        exact hsame ▸ List.Sublist.refl _
    simpa [pushed, hdeed] using hrest.trans ih
  | drain hdeed =>
    rw [CallbackTable.entries_drained]
    exact List.nil_sublist _

/-! ## Native callbacks are told apart -/

/-- What a run yields only once is yielded by one call. -/
theorem collect_call_unique {α : Type} {f : Occurrence → List α} {h : History} {a : α}
    {c c' : Nat} (hnodup : (collect f h).Nodup) (hc : a ∈ collect f (logOf h c))
    (hc' : a ∈ collect f (logOf h c')) : c = c' := by
  induction h with
  | nil => cases hc
  | cons x h ih =>
    rw [collect_cons] at hnodup
    obtain ⟨hold, _, hdisjoint⟩ := List.nodup_append.mp hnodup
    have hcases : ∀ {c}, a ∈ collect f (logOf (x :: h) c) →
        a ∈ collect f (logOf h c) ∨ x.call = c ∧ a ∈ f x := by
      intro c hmem
      by_cases hx : x.call = c
      · rw [logOf_cons_self hx, collect_cons] at hmem
        exact (List.mem_append.mp hmem).imp id fun hnew => ⟨hx, hnew⟩
      · rw [logOf_cons_of_ne hx] at hmem
        exact Or.inl hmem
    rcases hcases hc with hc | ⟨rfl, hnew⟩
    · rcases hcases hc' with hc' | ⟨_, hnew⟩
      · exact ih hold hc hc'
      · exact absurd rfl (hdisjoint a (mem_collect_of_logOf hc) a hnew)
    · rcases hcases hc' with hc' | ⟨rfl, _⟩
      · exact absurd rfl (hdisjoint a (mem_collect_of_logOf hc') a hnew)
      · rfl

/-- A function stays, whatever happens. -/
theorem Deed.hasFunction {deed : Deed} {o : Objects} {f : FunctionId} (h : o.HasFunction f) :
    (deed.apply o).HasFunction f := by
  cases deed with
  | did effect => exact Effect.hasFunction h
  | begun | took | gave | asked | answered | failed | returned | panicked => exact h

/-- What is made is a new function. -/
theorem not_hasFunction_of_made {native : FunctionId} (h : native ∈ x.made) :
    ¬ x.objects.HasFunction native := by
  unfold made at h
  split at h
  next =>
    rw [List.mem_singleton.mp h]
    exact Nat.lt_irrefl _
  next => cases h

/-- Every native callback is made anew. -/
theorem Reachable.made_nodup (hs : Reachable rule s) :
    (collect made s.history).Nodup ∧
      ∀ native ∈ collect made s.history, s.objects.HasFunction native := by
  refine hs.induct (I := fun o h => (collect made h).Nodup ∧
    ∀ native ∈ collect made h, o.HasFunction native) ⟨List.nodup_nil, by simp⟩ ?_
  rintro s x _ hnext ⟨hnodup, hhas⟩
  have hobjects := hnext.objects
  cases hdeed : x.deed with
  | did effect =>
    have hkeep : ∀ native ∈ collect made s.history, (effect.apply s.objects).HasFunction native :=
      fun native hnative => Effect.hasFunction (hhas native hnative)
    cases effect
    case addBridged target converter =>
      have hmade : x.made = [s.objects.nextFunction] := by simp [made, hdeed, hobjects]
      rw [collect_cons, hmade]
      refine ⟨?_, ?_⟩
      · refine List.nodup_append.mpr ⟨hnodup, by simp, ?_⟩
        intro native hnative next hnext heq
        have hlt : native.index < s.objects.functions.next := hhas native hnative
        rw [List.mem_singleton.mp hnext] at heq
        rw [heq] at hlt
        exact Nat.lt_irrefl _ hlt
      · intro native hnative
        rcases List.mem_append.mp hnative with hold | hnew
        · exact hkeep native hold
        · rw [List.mem_singleton.mp hnew]
          simp [Deed.apply, Effect.apply, Objects.HasFunction, Objects.addBridged,
            Objects.nextFunction]
    all_goals
      rw [collect_cons, show x.made = [] by simp [made, hdeed], List.append_nil]
      exact ⟨hnodup, hkeep⟩
  | begun | took | gave | asked | answered | failed | returned | panicked =>
    rw [collect_cons, show x.made = [] by simp [made, hdeed], List.append_nil]
    exact ⟨hnodup, hhas⟩

/-- A registration is recorded by a call that has made its native callback and registered it. -/
theorem Next.of_push (h : Next rule s x) {b : BridgeId} {key : MemberKey} {entry : Registration}
    (hdeed : x.deed = .did (.push b key entry)) :
    ∃ converter registrar, x.operation = .attach b key entry.caller converter registrar ∧
      collect made (logOf s.history x.call) = [entry.native] ∧
      collect registered (logOf s.history x.call) = [(registrar, entry.native)] ∧
      collect (pushed b) (logOf s.history x.call) = [] ∧
      .table b ∈ held (logOf s.history x.call) ∧ (x.objects.table b).released = false := by
  obtain ⟨converter, registrar, hop⟩ := h.effects hdeed
  have hlaw := h.obeys keeps_attaching
  simp only [attaching, hop, hdeed, true_and] at hlaw
  exact ⟨converter, registrar, hop, hlaw⟩

/-- The native callback of a recorded registration was made in the same call. -/
theorem Reachable.made_of_pushed (hs : Reachable rule s) {b : BridgeId} {call : Nat}
    {key : MemberKey} {entry : Registration}
    (hmem : (key, entry) ∈ collect (pushed b) (logOf s.history call)) :
    entry.native ∈ collect made (logOf s.history call) := by
  obtain ⟨x, hx, hpushed⟩ := mem_collect.mp hmem
  obtain ⟨hin, rfl⟩ := mem_logOf.mp hx
  obtain ⟨later, s', hsplit, _, hnext⟩ := hs.exists_next hin
  obtain ⟨_, _, _, hmade, _⟩ := hnext.of_push (mem_pushed.mp hpushed)
  rw [hsplit, logOf_append, logOf_cons_self rfl, collect_append, collect_cons, hmade]
  simp

/-- No native callback is recorded twice. -/
theorem Reachable.natives_nodup (hs : Reachable rule s) (b : BridgeId) :
    ((collect (pushed b) s.history).map (·.2.native)).Nodup := by
  refine hs.induct (I := fun _ h => ((collect (pushed b) h).map (·.2.native)).Nodup)
    List.nodup_nil ?_
  intro s x hs hnext ih
  rw [collect_cons, List.map_append]
  refine List.nodup_append.mpr ⟨ih, ?_, ?_⟩
  · unfold pushed
    split
    next => split <;> simp
    next => simp
  · intro native hold native' hnew heq
    obtain ⟨⟨key, entry⟩, hmem, rfl⟩ := List.mem_map.mp hold
    obtain ⟨⟨key', entry'⟩, hmem', rfl⟩ := List.mem_map.mp hnew
    obtain ⟨y, hy, hpushed⟩ := mem_collect.mp hmem
    obtain ⟨_, _, _, hmade, _, hnone, _⟩ := hnext.of_push (mem_pushed.mp hmem')
    have hylog : y ∈ logOf s.history y.call := mem_logOf.mpr ⟨hy, rfl⟩
    have hmade' : entry.native ∈ collect made (logOf s.history y.call) :=
      hs.made_of_pushed (mem_collect.mpr ⟨y, hylog, hpushed⟩)
    -- the same callback was made by both calls, so the call would have recorded it before
    have hcall : y.call = x.call := by
      refine collect_call_unique hs.made_nodup.1 hmade' ?_
      rw [hmade, show entry.native = entry'.native from heq]
      exact List.mem_singleton_self _
    rw [hcall] at hylog
    have hpushed' : (key, entry) ∈ collect (Occurrence.pushed b) (logOf s.history x.call) :=
      mem_collect.mpr ⟨y, hylog, hpushed⟩
    rw [hnone] at hpushed'
    cases hpushed'

end Hostlink.Interleaving
