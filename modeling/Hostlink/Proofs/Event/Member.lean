import Hostlink.Proofs.Bridge.Conservation
import Hostlink.Proofs.Event.Run

/-!
# Members whose callbacks are handlers of an event

An event member is a member of a bridge that attaches by adding the native callback to an event,
detaches by removing it from there, and has a hook that does the same.  Its rule keeps other
operations away from its native callbacks; what they do with other handlers is free.

Only calls of the member's own operations touch its native callbacks.  A native callback is added
once, by the call that has made it, and removed at most once, by the call that has taken its
registration from the table.
-/

namespace Hostlink.Interleaving

open Occurrence

/-- A member of a bridge whose native callbacks are handlers of an event. -/
structure EventMember where
  bridge : BridgeId
  key : MemberKey
  event : EventId

namespace EventMember

variable (m : EventMember)

/-- Whether an operation attaches to the member. -/
def Attaches : Operation → Prop
  | .attach b key _ _ _ => b = m.bridge ∧ key = m.key
  | _ => False

instance : (op : Operation) → Decidable (m.Attaches op)
  | .attach b key _ _ _ => inferInstanceAs (Decidable (b = m.bridge ∧ key = m.key))
  | .makeFunction | .invoke _ _ | .makeEvent | .add _ _ | .remove _ _ | .raise _ _ | .count _
  | .clear _ | .makeBridge | .registerMember _ _ _ | .tryDetach _ _ _ | .detachFrom _ _ _ _
  | .releaseAll _ | .len _ _ | .totalLen _ | .isEmpty _ | .isReleased _ | .showBridge _
  | .makeWrapper _ _ | .dispose _ | .drop _ | .isDisposed _ | .ensureLive _ => .isFalse id

variable {m} in
theorem Attaches.exists_eq {op : Operation} (h : m.Attaches op) :
    ∃ callback converter registrar, op = .attach m.bridge m.key callback converter registrar := by
  cases op
  case attach b key callback converter registrar =>
    obtain ⟨rfl, rfl⟩ := h
    exact ⟨callback, converter, registrar, rfl⟩
  all_goals exact h.elim

/-- Whether an operation attaches to the member, detaches from it, or releases its bridge. -/
def Uses (op : Operation) : Prop :=
  m.Attaches op ∨ (∃ callback e, op = .detachFrom m.bridge m.key callback e) ∨
    op.Releases m.bridge

/-- The native callback that is made for the member. -/
def synthesized (x : Occurrence) : List FunctionId :=
  if m.Attaches x.operation then x.made else []

/-- The rule of an event member.  Attaching adds to the event, after the hook has been set that
removes from it, and detaching removes from it; the other hooks of the bridge remove from events as
well.  Nobody else adds the member's native callbacks to the event or removes them, and nobody
clears it. -/
def rule : Rule := fun o h op =>
  match op with
  | .attach b key _ _ registrar => b = m.bridge ∧ key = m.key →
    registrar = .addTo m.event ∧ (o.table b).hook? key = some (.removeFrom m.event)
  | .registerMember b key hook => b = m.bridge →
    match hook with
    | .removeFrom e => key = m.key → e = m.event
    | .client _ => False
  | .tryDetach b key _ => ¬ (b = m.bridge ∧ key = m.key)
  | .detachFrom b key _ e => b = m.bridge ∧ key = m.key → e = m.event
  | .add e handler | .remove e handler => e = m.event → handler ∉ collect m.synthesized h
  | .clear e => e ≠ m.event
  | _ => True

instance (o : Objects) (h : History) : (op : Operation) → Decidable (m.rule o h op)
  | .attach b key _ _ registrar => inferInstanceAs (Decidable (b = m.bridge ∧ key = m.key →
    registrar = .addTo m.event ∧ (o.table b).hook? key = some (.removeFrom m.event)))
  | .registerMember b key (.removeFrom e) =>
    inferInstanceAs (Decidable (b = m.bridge → key = m.key → e = m.event))
  | .registerMember b _ (.client _) => inferInstanceAs (Decidable (b = m.bridge → False))
  | .tryDetach b key _ => inferInstanceAs (Decidable (¬ (b = m.bridge ∧ key = m.key)))
  | .detachFrom b key _ e => inferInstanceAs (Decidable (b = m.bridge ∧ key = m.key → e = m.event))
  | .add e handler | .remove e handler =>
    inferInstanceAs (Decidable (e = m.event → handler ∉ collect m.synthesized h))
  | .clear e => inferInstanceAs (Decidable (e ≠ m.event))
  | .makeFunction | .invoke _ _ | .makeEvent | .raise _ _ | .count _ | .makeBridge
  | .releaseAll _ | .len _ _ | .totalLen _ | .isEmpty _ | .isReleased _ | .showBridge _
  | .makeWrapper _ _ | .dispose _ | .drop _ | .isDisposed _ | .ensureLive _ => .isTrue trivial

end EventMember

/-- The registrations that are taken from the table, back or by a drain. -/
def Occurrence.taken (b : BridgeId) (x : Occurrence) : List (MemberKey × Registration) :=
  x.detached b ++ x.drained b

section

variable {rule : Rule} {s : State} {x : Occurrence} {m : EventMember} {b : BridgeId}
  {key : MemberKey} {entry : Registration} {native : FunctionId}

/-! ## Where native callbacks come from -/

theorem mem_synthesized {h : History} : native ∈ collect m.synthesized h ↔
    ∃ x ∈ h, m.Attaches x.operation ∧ native ∈ x.made := by
  rw [mem_collect]
  unfold EventMember.synthesized
  constructor
  · rintro ⟨x, hx, hmem⟩
    split at hmem
    next hop => exact ⟨x, hx, hop, hmem⟩
    next => cases hmem
  · rintro ⟨x, hx, hop, hmade⟩
    exact ⟨x, hx, by rw [if_pos hop]; exact hmade⟩

theorem mem_made_of_synthesized (h : native ∈ m.synthesized x) : native ∈ x.made := by
  unfold EventMember.synthesized at h
  split at h
  next => exact h
  next => cases h

/-- A call that has made a native callback of the member attaches to it. -/
theorem Reachable.attaches_of_made (hs : Reachable rule s) (hx : x ∈ s.history)
    (hmade : native ∈ collect made (logOf s.history x.call))
    (hours : native ∈ collect m.synthesized s.history) : m.Attaches x.operation := by
  obtain ⟨y, hy, hop, hmade'⟩ := mem_synthesized.mp hours
  have hcall : x.call = y.call := by
    refine collect_call_unique hs.made_nodup.1 hmade ?_
    exact mem_collect.mpr ⟨y, mem_logOf.mpr ⟨hy, rfl⟩, hmade'⟩
  rw [hs.operation_eq hx hy hcall]
  exact hop

/-- Every registration was recorded by a call that attached and made its native callback. -/
theorem Reachable.exists_push (hs : Reachable rule s)
    (hmem : (key, entry) ∈ collect (pushed b) s.history) :
    ∃ x ∈ s.history, x.deed = .did (.push b key entry) ∧
      (∃ converter registrar, x.operation = .attach b key entry.caller converter registrar) ∧
      entry.native ∈ collect made (logOf s.history x.call) := by
  obtain ⟨x, hx, hpushed⟩ := mem_collect.mp hmem
  have hdeed := mem_pushed.mp hpushed
  have hlog : (key, entry) ∈ collect (pushed b) (logOf s.history x.call) :=
    mem_collect.mpr ⟨x, mem_logOf.mpr ⟨hx, rfl⟩, hpushed⟩
  exact ⟨x, hx, hdeed, hs.effects hx hdeed, hs.made_of_pushed hlog⟩

/-- A registration with a native callback of the member is one of the member. -/
theorem Reachable.member_of_pushed (hs : Reachable rule s)
    (hmem : (key, entry) ∈ collect (pushed b) s.history)
    (hours : entry.native ∈ collect m.synthesized s.history) : b = m.bridge ∧ key = m.key := by
  obtain ⟨x, hx, _, ⟨converter, registrar, hop⟩, hmade⟩ := hs.exists_push hmem
  have hattaches := hs.attaches_of_made hx hmade hours
  rw [hop] at hattaches
  exact hattaches

/-- The registrations of the member have native callbacks of the member. -/
theorem Reachable.synthesized_of_pushed (hs : Reachable rule s)
    (hmem : (m.key, entry) ∈ collect (pushed m.bridge) s.history) :
    entry.native ∈ collect m.synthesized s.history := by
  obtain ⟨x, hx, _, ⟨converter, registrar, hop⟩, hmade⟩ := hs.exists_push hmem
  obtain ⟨y, hy, hnative⟩ := mem_collect.mp hmade
  obtain ⟨hy, hcall⟩ := mem_logOf.mp hy
  refine mem_synthesized.mpr ⟨y, hy, ?_, hnative⟩
  rw [hs.operation_eq hy hx hcall, hop]
  exact ⟨rfl, rfl⟩

/-- Every registration is in the table or has been taken from it. -/
theorem Reachable.places_taken (hs : Reachable rule s) (b : BridgeId) :
    (collect (pushed b) s.history).Perm
      ((s.objects.table b).registrations ++ collect (taken b) s.history) :=
  (hs.places b).trans ((collect_append_perm _ _ s.history).symm.append_left _)

/-- No registration is taken twice. -/
theorem Reachable.taken_nodup (hs : Reachable rule s) (b : BridgeId) :
    (collect (fun x => (x.taken b).map (·.2.native)) s.history).Nodup := by
  have hnodup := ((hs.places_taken b).map (·.2.native)).nodup_iff.mp (hs.natives_nodup b)
  rw [List.map_append, collect_map] at hnodup
  exact (List.nodup_append.mp hnodup).2.1

/-- A registration that has been taken was recorded. -/
theorem Reachable.pushed_of_taken (hs : Reachable rule s)
    (hmem : (key, entry) ∈ collect (taken b) s.history) :
    (key, entry) ∈ collect (pushed b) s.history :=
  (hs.places_taken b).mem_iff.mpr (List.mem_append_right _ hmem)

end

/-! ## What the rule keeps -/

section

variable {m : EventMember} {s : State} {x : Occurrence} {native : FunctionId}

/-- Nobody else adds or removes a native callback of the member. -/
theorem Reachable.foreign (hs : Reachable m.rule s) (hx : x ∈ s.history)
    (hop : x.operation = .add m.event native ∨ x.operation = .remove m.event native) :
    native ∉ collect m.synthesized s.history := by
  suffices hall : ∀ x ∈ s.history, ∀ native,
      x.operation = .add m.event native ∨ x.operation = .remove m.event native →
      native ∉ collect m.synthesized s.history ∧ s.objects.HasFunction native from
    (hall x hx native hop).1
  refine hs.induct (I := fun o h => ∀ x ∈ h, ∀ native,
    x.operation = .add m.event native ∨ x.operation = .remove m.event native →
    native ∉ collect m.synthesized h ∧ o.HasFunction native) (by simp) ?_
  intro s x _ hnext ih y hy native hop
  have hbefore : native ∉ collect m.synthesized s.history ∧ s.objects.HasFunction native := by
    rcases List.mem_cons.mp hy with rfl | hy
    · cases hlog : logOf s.history y.call with
      | nil =>
        have hallowed := (hnext.begun hlog).2
        have hvalid := hnext.valid
        rcases hop with hop | hop
        · rw [hop] at hallowed hvalid
          exact ⟨hallowed rfl, hvalid.2⟩
        · rw [hop] at hallowed hvalid
          exact ⟨hallowed rfl, hvalid.2⟩
      | cons z log =>
        have hz : z ∈ logOf s.history y.call := by rw [hlog]; exact List.mem_cons_self
        exact ih z (mem_logOf.mp hz).1 native (hnext.operation_eq hz ▸ hop)
    · exact ih y hy native hop
  obtain ⟨hnot, hhas⟩ := hbefore
  refine ⟨?_, Deed.hasFunction hhas⟩
  rw [collect_cons]
  intro hmem
  rcases List.mem_append.mp hmem with hold | hnew
  · exact hnot hold
  · refine not_hasFunction_of_made (mem_made_of_synthesized hnew) ?_
    rw [hnext.objects]
    exact hhas

/-- Attachments of the member add to its event. -/
theorem Reachable.registrar_eq (hs : Reachable m.rule s) (hx : x ∈ s.history)
    {callback : FunctionId} {converter : Converter} {registrar : Registrar}
    (hop : x.operation = .attach m.bridge m.key callback converter registrar) :
    registrar = .addTo m.event := by
  obtain ⟨s', _, _, hallowed⟩ := hs.allowed x hx
  rw [hop] at hallowed
  exact (hallowed ⟨rfl, rfl⟩).1

/-- The hooks of the bridge remove from events, the hook of the member from its event. -/
theorem Reachable.hook_eq (hs : Reachable m.rule s) {key : MemberKey} {hook : Hook}
    (hmem : hook ∈ collect (hooked m.bridge key) s.history) :
    ∃ e, hook = .removeFrom e ∧ (key = m.key → e = m.event) := by
  obtain ⟨x, hx, hhook⟩ := mem_collect.mp hmem
  have hop : x.operation = .registerMember m.bridge key hook := by
    unfold hooked at hhook
    split at hhook
    next hdeed =>
      split at hhook
      next heq =>
        rw [List.mem_singleton.mp hhook, ← heq.1, ← heq.2]
        exact hs.effects hx hdeed
      next => cases hhook
    next => cases hhook
  obtain ⟨s', _, _, hallowed⟩ := hs.allowed x hx
  rw [hop] at hallowed
  cases hook with
  | removeFrom e => exact ⟨e, rfl, hallowed rfl⟩
  | client code => exact (hallowed rfl).elim

/-- Once a call attaches to the member, its hook is set. -/
theorem Reachable.hook?_of_attaches (hs : Reachable m.rule s) (hx : x ∈ s.history)
    (hop : m.Attaches x.operation) :
    (s.objects.table m.bridge).hook? m.key = some (.removeFrom m.event) := by
  obtain ⟨s', hs', ⟨later, hlater⟩, hallowed⟩ := hs.allowed x hx
  have hset : (collect (hooked m.bridge m.key) s'.history).getLast?
      = some (.removeFrom m.event) := by
    obtain ⟨callback, converter, registrar, heq⟩ := hop.exists_eq
    rw [heq] at hallowed
    rw [← hs'.hook?]
    exact (hallowed ⟨rfl, rfl⟩).2
  have hmem : .removeFrom m.event ∈ collect (hooked m.bridge m.key) s.history := by
    rw [← hlater, collect_append]
    exact List.mem_append_left _ (List.mem_of_getLast? hset)
  rw [hs.hook?]
  have hlast := List.getLast?_eq_some_getLast (List.ne_nil_of_mem hmem)
  obtain ⟨e, heq, he⟩ := hs.hook_eq (List.mem_of_getLast? hlast)
  rw [hlast, heq, he rfl]

/-! ## Adding and removing -/

/-- A native callback of the member is added to the event only by the call that has made it. -/
theorem Reachable.attaches_of_added (hs : Reachable m.rule s) (hx : x ∈ s.history)
    (hadded : native ∈ x.added m.event) (hours : native ∈ collect m.synthesized s.history) :
    m.Attaches x.operation := by
  have hdeed := mem_added.mp hadded
  rcases hs.effects hx hdeed with hop | ⟨b, key, callback, converter, hop⟩
  · exact absurd hours (hs.foreign hx (Or.inl hop))
  · obtain ⟨later, earlier, hsplit⟩ := List.append_of_mem hx
    have hlaw := hs.obeys_at keeps_attaching hsplit
    simp only [attaching, hop, hdeed] at hlaw
    refine hs.attaches_of_made hx ?_ hours
    rw [hsplit, logOf_append, logOf_cons_self rfl, collect_append, collect_cons, hlaw.2.1]
    simp

/-- What is removed from the event has been taken from the table by the same call, which has not
handed it over before. -/
theorem Reachable.taken_of_removed (hs : Reachable m.rule s) {later earlier : History}
    (hsplit : s.history = later ++ x :: earlier)
    (hdeed : x.deed = .did (.removeHandler m.event native))
    (hours : native ∈ collect m.synthesized s.history) :
    (∃ entry, entry.native = native ∧
      (m.key, entry) ∈ collect (taken m.bridge) (logOf earlier x.call)) ∧
    ∀ hook, (hook, native) ∉ collect handed (logOf earlier x.call) := by
  have hx : x ∈ s.history := by rw [hsplit]; simp
  -- whatever the call has taken with this native callback is a registration of the member
  have hmember : ∀ b key (entry : Registration), entry.native = native →
      (key, entry) ∈ collect (taken b) (logOf earlier x.call) →
      (m.key, entry) ∈ collect (taken m.bridge) (logOf earlier x.call) := by
    intro b key entry hnative hmem
    have hall : (key, entry) ∈ collect (taken b) s.history := by
      rw [hsplit, collect_append, collect_cons]
      exact List.mem_append_left _ (List.mem_append_left _ (mem_collect_of_logOf hmem))
    obtain ⟨rfl, rfl⟩ := hs.member_of_pushed (hs.pushed_of_taken hall) (hnative ▸ hours)
    exact hmem
  rcases hs.effects hx hdeed with hop | ⟨b, key, callback, hop⟩ | ⟨b, hop⟩
  · exact absurd hours (hs.foreign hx (Or.inr hop))
  · have hlaw := hs.obeys_at keeps_detaching hsplit
    simp only [detaching, hop, hdeed] at hlaw
    obtain ⟨hnone, hone⟩ := hlaw
    obtain ⟨⟨key', entry⟩, hmem, hnative⟩ :=
      List.mem_map.mp (hone ▸ List.mem_singleton_self native)
    refine ⟨⟨entry, hnative, hmember b key' entry hnative ?_⟩, ?_⟩
    · exact (collect_append_perm _ _ _).mem_iff.mpr (List.mem_append_left _ hmem)
    · rw [hnone]
      exact fun hook => List.not_mem_nil
  · have hlaw := hs.obeys_at keeps_releasing hsplit b hop
    simp only [hdeed] at hlaw
    obtain ⟨rest, hturn⟩ := hlaw
    have howed : native ∈ (collect (owed b) (logOf earlier x.call)).map (·.2) := by
      rw [hturn]
      simp
    obtain ⟨⟨key, entry⟩, hmem, hnative⟩ := List.mem_map.mp ((owed_sublist_drained _).subset howed)
    refine ⟨⟨entry, hnative, hmember b key entry hnative ?_⟩, ?_⟩
    · exact (collect_append_perm _ _ _).mem_iff.mpr (List.mem_append_right _ hmem)
    · intro hook hbefore
      obtain ⟨s', hs', rfl, _⟩ := hs.split hsplit
      have hnodup := ((owed_sublist_drained _).trans
        ((collect_logOf_sublist s'.history x.call).map _)).nodup (hs'.drained_nodup b)
      rw [hturn, List.map_append, List.map_cons] at hnodup
      refine (List.nodup_append.mp hnodup).2.2 native ?_ native List.mem_cons_self rfl
      exact List.mem_map_of_mem (f := Prod.snd) hbefore

end

end Hostlink.Interleaving
