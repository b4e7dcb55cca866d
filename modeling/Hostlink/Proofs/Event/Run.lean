import Hostlink.Proofs.Bridge.Run

/-!
# An event during a run

`EventStep` says what one deed can do to the handlers of an event.  By induction on the run the
handlers are some of those that were added, in the order in which they were added.
-/

namespace Hostlink

namespace Objects

/-- A change that keeps an event without handlers, at any event. -/
theorem event_modifyEvent_of_empty (o : Objects) (e : EventId)
    {f : Multicast FunctionId → Multicast FunctionId} (hf : f .empty = .empty) :
    (o.modifyEvent e f).event e = f (o.event e) := by
  by_cases h : o.HasEvent e
  · exact event_modifyEvent_self h f
  · have hnone : o.events.get? e.index = none := List.getElem?_eq_none (Nat.le_of_not_lt h)
    simp [event, modifyEvent, hnone, hf]

end Objects

namespace Interleaving

open Occurrence

variable {rule : Rule} {s : State} {x : Occurrence} {e : EventId}

/-- The handler that is added to the event. -/
def Occurrence.added (e : EventId) (x : Occurrence) : List FunctionId :=
  match x.deed with
  | .did (.addHandler e' handler) => if e' = e then [handler] else []
  | _ => []

theorem mem_added {handler : FunctionId} :
    handler ∈ x.added e ↔ x.deed = .did (.addHandler e handler) := by
  unfold added
  constructor
  · intro hmem
    split at hmem
    next hdeed =>
      split at hmem
      next heq => rw [hdeed, heq, List.mem_singleton.mp hmem]
      next => cases hmem
    next => cases hmem
  · intro hdeed
    simp [hdeed]

/-- What one deed does to the handlers of an event. -/
inductive EventStep (e : EventId) (x : Occurrence) (m : Multicast FunctionId) :
    Multicast FunctionId → Prop
  | other (added : x.added e = []) (removes : ∀ handler, x.deed ≠ .did (.removeHandler e handler)) :
    EventStep e x m m
  | add (handler : FunctionId) (deed : x.deed = .did (.addHandler e handler)) :
    EventStep e x m (m.add handler)
  | remove (handler : FunctionId) (deed : x.deed = .did (.removeHandler e handler)) :
    EventStep e x m (m.remove handler)
  | clear (deed : x.deed = .did (.clearHandlers e)) : EventStep e x m .empty

section

variable {m m' : Multicast FunctionId} {handler : FunctionId}

/-- Adding a handler puts it on the event once more. -/
theorem EventStep.count_of_added (h : EventStep e x m m')
    (hdeed : x.deed = .did (.addHandler e handler)) :
    m'.handlers.count handler = m.handlers.count handler + 1 := by
  cases h with
  | add handler' hdeed' =>
    obtain rfl : handler = handler' := by
      rw [hdeed] at hdeed'
      simpa using hdeed'
    rw [Multicast.add, List.count_append, List.count_singleton_self]
  | other hadded => simp [added, hdeed] at hadded
  | remove handler' hdeed' => simp [hdeed] at hdeed'
  | clear hdeed' => simp [hdeed] at hdeed'

/-- Removing a handler takes it off the event once. -/
theorem EventStep.count_of_removed (h : EventStep e x m m')
    (hdeed : x.deed = .did (.removeHandler e handler)) :
    m'.handlers.count handler = m.handlers.count handler - 1 := by
  cases h with
  | remove handler' hdeed' =>
    obtain rfl : handler = handler' := by
      rw [hdeed] at hdeed'
      simpa using hdeed'
    rw [Multicast.remove, count_eraseLast, if_pos rfl]
  | other _ hremoves => exact absurd hdeed (hremoves handler)
  | add handler' hdeed' => simp [hdeed] at hdeed'
  | clear hdeed' => simp [hdeed] at hdeed'

/-- Nothing else but a clear changes how often a handler is on the event. -/
theorem EventStep.count_of_other (h : EventStep e x m m')
    (hadds : x.deed ≠ .did (.addHandler e handler))
    (hremoves : x.deed ≠ .did (.removeHandler e handler))
    (hclear : x.deed ≠ .did (.clearHandlers e)) :
    m'.handlers.count handler = m.handlers.count handler := by
  cases h with
  | other => rfl
  | add handler' hdeed =>
    have hne : handler' ≠ handler := fun heq => hadds (by rw [hdeed, heq])
    rw [Multicast.add, List.count_append, List.count_singleton, if_neg (by simpa using hne)]
    rfl
  | remove handler' hdeed =>
    have hne : handler' ≠ handler := fun heq => hremoves (by rw [hdeed, heq])
    rw [Multicast.remove, count_eraseLast, if_neg hne, Nat.sub_zero]
  | clear hdeed => exact absurd hdeed hclear

end

/-- An event to which a handler is added exists. -/
theorem hasEvent_of_addHandler {op : Operation} {o : Objects} {handler : FunctionId}
    (hvalid : op.Valid o) (heffect : op.Effects (.addHandler e handler)) : o.HasEvent e := by
  rcases heffect with rfl | ⟨b, key, callback, converter, rfl⟩
  · exact hvalid.1
  · exact hvalid.2.2

/-- Every deed of a run does one of these things to the handlers of an event. -/
theorem Next.eventStep (h : Next rule s x) (e : EventId) :
    EventStep e x (s.objects.event e) ((x.deed.apply s.objects).event e) := by
  by_cases hlock : ∃ effect, x.deed = .did effect ∧ effect.lock? = some (.handlers e)
  · obtain ⟨effect, hdeed, hlock⟩ := hlock
    rw [hdeed]
    cases effect
    case addHandler e' handler =>
      cases hlock
      have hevent := hasEvent_of_addHandler h.valid (h.effects hdeed)
      exact Objects.event_modifyEvent_self hevent _ ▸ .add handler hdeed
    case removeHandler e' handler =>
      cases hlock
      exact s.objects.event_modifyEvent_of_empty e (f := (·.remove handler)) rfl ▸
        .remove handler hdeed
    case clearHandlers e' =>
      cases hlock
      exact s.objects.event_modifyEvent_of_empty e (f := fun _ => .empty) rfl ▸ .clear hdeed
    all_goals cases hlock
  · have hno : ∀ effect, effect.lock? = some (.handlers e) → x.deed ≠ .did effect :=
      fun effect heq hdeed => hlock ⟨effect, hdeed, heq⟩
    rw [Deed.event_apply_of_ne fun effect hdeed heq => hlock ⟨effect, hdeed, heq⟩]
    refine .other ?_ fun handler => hno _ rfl
    exact List.eq_nil_iff_forall_not_mem.mpr fun handler hmem => hno _ rfl (mem_added.mp hmem)

/-- The handlers of an event come in the order in which they were added. -/
theorem Reachable.handlers_sublist (hs : Reachable rule s) (e : EventId) :
    (s.objects.event e).handlers.Sublist (collect (added e) s.history) := by
  refine hs.induct (I := fun o h => (o.event e).handlers.Sublist (collect (added e) h))
    (List.Sublist.refl _) ?_
  intro s x _ hnext ih
  have hstep := hnext.eventStep e
  generalize (x.deed.apply s.objects).event e = m at hstep
  rw [collect_cons]
  cases hstep with
  | other hadded =>
    rw [hadded, List.append_nil]
    exact ih
  | add handler hdeed =>
    rw [show x.added e = [handler] by simp [added, hdeed]]
    exact ih.append (List.Sublist.refl _)
  | remove handler hdeed =>
    exact ((eraseLast_sublist handler _).trans ih).trans (List.sublist_append_left _ _)
  | clear hdeed => exact List.nil_sublist _

/-- Every handler that was added is a function that exists. -/
theorem Reachable.hasFunction_of_added (hs : Reachable rule s) (e : EventId) :
    ∀ handler ∈ collect (added e) s.history, s.objects.HasFunction handler := by
  refine hs.induct (I := fun o h => ∀ handler ∈ collect (added e) h, o.HasFunction handler)
    (by simp) ?_
  intro s x hs hnext ih handler hmem
  refine Deed.hasFunction ?_
  rw [collect_cons] at hmem
  rcases List.mem_append.mp hmem with hold | hnew
  · exact ih handler hold
  · have hdeed := mem_added.mp hnew
    have hvalid := hnext.valid
    rcases hnext.effects hdeed with hop | ⟨b, key, callback, converter, hop⟩
    · rw [hop] at hvalid
      exact hvalid.2
    · have hlaw := hnext.obeys keeps_attaching
      simp only [attaching, hop, hdeed] at hlaw
      have hmade : handler ∈ collect made (logOf s.history x.call) := by
        rw [hlaw.2.1]
        exact List.mem_singleton_self _
      exact hs.made_nodup.2 handler (mem_collect_of_logOf hmade)

end Interleaving
end Hostlink
