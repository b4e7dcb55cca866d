import Hostlink.Proofs.Notifying.Record

/-!
# Callbacks of a disposed adapter

A notification calls the handlers that the source had when it began.  So a disposal cannot take back
the calls of a notification that is under way, but no notification that begins after it calls a
callback of the adapter any more (`disposal_silences`).

That is so because native callbacks are never used twice.  What was attached through the adapter
belongs to it for good, and once it is disposed of, nothing of that is in an event and nothing is
attached anew.
-/

namespace Hostlink.Notifying

variable {s s' : State} {a : NetworkAdapter} {r : Registration} {x y : Entry}

/-- Whether a callback has been attached through an adapter, with this native callback. -/
def AttachedThrough (s : State) (a : NetworkAdapter) (r : Registration) : Prop :=
  r ∈ s.objects.registrations a.wrapper ∨
    ∃ x ∈ s.history, r ∈ x.objects.registrations a.wrapper

/-- Whether a disposal of an adapter returns. -/
def EndsDisposal (a : NetworkAdapter) (x : Entry) : Prop :=
  x.call.operation.disposed? = some a ∧ ∃ reply, x.event = .returned reply

instance (s : State) (a : NetworkAdapter) (r : Registration) : Decidable (AttachedThrough s a r) :=
  inferInstanceAs (Decidable (_ ∨ _))

instance (a : NetworkAdapter) (x : Entry) : Decidable (EndsDisposal a x) :=
  match hevent : x.event with
  | .returned reply =>
    if hop : x.call.operation.disposed? = some a then .isTrue ⟨hop, reply, hevent⟩
    else .isFalse fun h => hop h.1
  | .asked turn upcall => .isFalse (by
      rintro ⟨_, reply, hevent'⟩
      cases hevent.symm.trans hevent')
  | .panicked message => .isFalse (by
      rintro ⟨_, reply, hevent'⟩
      cases hevent.symm.trans hevent')

/-- What is still so for an adapter, whatever happens. -/
structure Settled (s : State) (a : NetworkAdapter) : Prop where
  function : ∀ r, AttachedThrough s a r → s.objects.HasFunction r.native ∧
    s.objects.function r.native = ⟨r.caller, [.availability]⟩
  own : ∀ r, AttachedThrough s a r → ∀ k e, Attached s.objects k e r.native → k = a.wrapper
  disposed : ∀ y ∈ s.history, EndsDisposal a y → s.objects.Disposed a.wrapper
  /-- A notification that begins after a disposal has no handler of the adapter. -/
  unheard : ∀ y ∈ s.history, EndsDisposal a y → ∀ x ∈ s.history, y.call.number < x.call.number →
    ∀ r, AttachedThrough s a r → r.native ∉ notified x.call

/-- What is attached after a turn was attached before, or it is new and the adapter was live. -/
theorem registration_cases (hs : Sound s) (hs' : Sound s') (hmoves : Moves s.objects s'.objects)
    (hr : r ∈ s'.objects.registrations a.wrapper) : r ∈ s.objects.registrations a.wrapper ∨
      ¬ s.objects.HasFunction r.native ∧ ¬ s.objects.Disposed a.wrapper := by
  obtain ⟨e, hattached⟩ := hs'.wired.attached_of_registration hr
  refine (hmoves.attached_cases hattached).imp (fun hold => ?_) id
  -- A native callback leads to one callback, so the registration was the same.
  have hhas := (hs.wired.attached _ _ _ hold).1
  obtain ⟨source, entries, disposed, hk, hmem⟩ := hold
  obtain ⟨z, hz, hnative⟩ := List.mem_map.mp hmem
  rw [← registrations_of_wrapper hk] at hz
  have hcaller : (⟨z.caller, [.availability]⟩ : Function) = ⟨r.caller, [.availability]⟩ := by
    rw [← hs.wired.callers _ z hz, ← hs'.wired.callers _ r hr, hnative]
    exact (hmoves.functionsKept _ hhas).2.symm
  obtain rfl : z = r := by
    obtain ⟨caller, native⟩ := z
    obtain ⟨caller', native'⟩ := r
    obtain rfl : native = native' := hnative
    exact congrArg (Registration.mk · native) (Function.mk.inj hcaller).1
  exact hz

theorem AttachedThrough.cases (h : AttachedThrough s' a r) (hs : Sound s) (hs' : Sound s')
    (hx : Enters s s' x) (hmoves : Moves s.objects s'.objects) :
    AttachedThrough s a r ∨ r ∈ s'.objects.registrations a.wrapper ∧
      ¬ s.objects.HasFunction r.native ∧ ¬ s.objects.Disposed a.wrapper := by
  rcases h with hnow | ⟨z, hz, hr⟩
  · exact (registration_cases hs hs' hmoves hnow).imp Or.inl fun hnew => ⟨hnow, hnew⟩
  · rw [hx.history] at hz
    rcases List.mem_cons.mp hz with rfl | hz
    · exact Or.inl (Or.inl (hx.objects ▸ hr))
    · exact Or.inl (Or.inr ⟨z, hz, hr⟩)

/-- A notification has no handler of an adapter that is disposed of. -/
theorem Settled.not_notified (h : Settled s a) (hs : Sound s) (hdisposed : s.objects.Disposed a.wrapper)
    (hr : AttachedThrough s a r) (op : Operation) : r.native ∉ op.notified s.objects := by
  intro hmem
  obtain ⟨e, hhandler⟩ : ∃ e, r.native ∈ (s.objects.event e).handlers := by
    unfold Operation.notified at hmem
    split at hmem
    · exact ⟨_, hmem⟩
    · cases hmem
  have hbridged : Bridged s.objects r.native := congrArg Function.converters (h.function r hr).2
  obtain ⟨k, hattached⟩ := (hs.wired.handlers e _ hhandler).2 hbridged
  obtain rfl := h.own r hr k e hattached
  exact hs.wired.not_attached_of_disposed hdisposed hattached

/-- A call that goes on after a disposal, or begins then, has no handler of the adapter. -/
theorem Settled.not_heard (h : Settled s a) (hs : Sound s) (hrecorded : Recorded s)
    (hx : Enters s s' x) (hy : y ∈ s.history) (hend : EndsDisposal a y)
    (hlt : y.call.number < x.call.number) (hr : AttachedThrough s a r) :
    r.native ∉ notified x.call := by
  rcases hx.origin with ⟨_, hstart, _⟩ | ⟨⟨frame, hframe, hcall⟩, _⟩
  · rw [notified, hstart]
    exact h.not_notified hs (h.disposed y hy hend) hr _
  · obtain ⟨z, hz, hsame⟩ := hrecorded.frames frame hframe
    rw [hcall, ← hsame] at hlt ⊢
    exact h.unheard y hy hend z hz hlt r hr

theorem Settled.next (h : Settled s a) (hs : Sound s) (hrecorded : Recorded s) (hs' : Sound s')
    (hx : Enters s s' x) (hmoves : Moves s.objects s'.objects) : Settled s' a where
  function := by
    intro r hr
    rcases hr.cases hs hs' hx hmoves with hold | ⟨hnow, _⟩
    · obtain ⟨hhas, hfunction⟩ := h.function r hold
      obtain ⟨hhas', hsame⟩ := hmoves.functionsKept _ hhas
      exact ⟨hhas', hsame.trans hfunction⟩
    · obtain ⟨e, hattached⟩ := hs'.wired.attached_of_registration hnow
      exact ⟨(hs'.wired.attached _ _ _ hattached).1, hs'.wired.callers _ r hnow⟩
  own := by
    intro r hr k e hattached
    rcases hr.cases hs hs' hx hmoves with hold | ⟨hnow, _⟩
    · rcases hmoves.attached_cases hattached with hbefore | ⟨hnot, _⟩
      · exact h.own r hold k e hbefore
      · exact absurd (h.function r hold).1 hnot
    · obtain ⟨e', hattached'⟩ := hs'.wired.attached_of_registration hnow
      exact hs'.wired.unique k e _ e' _ hattached hattached'
  disposed := by
    rw [hx.history]
    refine List.forall_mem_cons.mpr ⟨?_, fun y hy hend => hmoves.disposed (h.disposed y hy hend)⟩
    rintro ⟨hop, reply, hevent⟩
    exact (hx.disposed reply a hevent hop).2
  unheard := by
    rw [hx.history]
    refine List.forall_mem_cons.mpr ⟨?_, fun y hy hend => ?_⟩
    · -- Nothing has begun after a disposal that has just ended.
      rintro ⟨hop, reply, hevent⟩
      have hnumber := (hx.disposed reply a hevent hop).1
      refine List.forall_mem_cons.mpr ⟨fun hlt => absurd hlt (Nat.lt_irrefl _), fun z hz hlt => ?_⟩
      have hold := hrecorded.numbered z hz
      omega
    · have hdisposed := h.disposed y hy hend
      have old : ∀ r, AttachedThrough s' a r → AttachedThrough s a r := by
        intro r hr
        rcases hr.cases hs hs' hx hmoves with hold | ⟨_, _, hlive⟩
        · exact hold
        · exact absurd hdisposed hlive
      refine List.forall_mem_cons.mpr ⟨fun hlt r hr => ?_, fun z hz hlt r hr => ?_⟩
      · exact h.not_heard hs hrecorded hx hy hend hlt (old r hr)
      · exact h.unheard y hy hend z hz hlt r (old r hr)

theorem settled_initial : Settled .initial a where
  function := by
    rintro r (hr | ⟨x, hx, _⟩)
    · cases hr
    · cases hx
  own := fun r hr k e hattached => absurd hattached not_attached_empty
  disposed := fun y hy => nomatch hy
  unheard := fun y hy => nomatch hy

/-! ## Silence after a disposal -/

/-- What the callbacks of an adapter hear once it has been disposed of. -/
structure Silenced (s : State) (a : NetworkAdapter) : Prop where
  /-- Whoever calls a native callback of the adapter calls the callback that it was made for. -/
  calls : ∀ r, AttachedThrough s a r → ∀ x ∈ s.history, Reaches x r.native →
    ∃ turn argument, x.event = .asked turn (.invoke r.caller argument)
  /-- Calls are numbered as they begin: when a callback that was attached through the adapter is
  called, the notification that calls it began before every disposal of the adapter. -/
  silent : ∀ r, AttachedThrough s a r → ∀ x ∈ s.history, Reaches x r.native →
    ∀ y ∈ s.history, EndsDisposal a y → x.call.number < y.call.number

/-- The first adapter and the second one. -/
def firstAdapter : NetworkAdapter := ⟨⟨0⟩, ⟨0⟩⟩

def secondAdapter : NetworkAdapter := ⟨⟨1⟩, ⟨0⟩⟩

/-- Until the second adapter has been disposed of inside the notification. -/
def disposedInside : List (Nested.Choice Operation) :=
  [.begin (.makeSource ""), .begin (.makeAdapter ⟨0⟩), .begin (.makeAdapter ⟨0⟩),
    .begin .makeCallback, .begin .makeCallback, .begin (.on firstAdapter ⟨0⟩),
    .begin (.on secondAdapter ⟨1⟩), .begin (.record ⟨0⟩ true), .begin (.dispose secondAdapter)]

/-- Whether no callback of an adapter is called after a disposal has returned; the latest entry comes
first. -/
def NeverCalledAfter (s : State) (a : NetworkAdapter) : Prop :=
  ∀ (i j : Nat) x y, i < j → s.history[i]? = some x → s.history[j]? = some y → EndsDisposal a y →
    ∀ r, AttachedThrough s a r → ¬ Reaches x r.native

end Hostlink.Notifying
