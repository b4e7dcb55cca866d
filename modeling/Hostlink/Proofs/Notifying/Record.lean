import Hostlink.Proofs.Notifying.Run

/-!
# The record of a run

Every step of a run makes one entry, of a call that begins or of one that has waited.  `Turn.enters`
says what the entry is; `Recorded` collects what entries and calls of a whole run have to do with each
other.  `run_induct` is the induction over runs that the properties of notifications use.
-/

namespace Hostlink.Notifying

variable {rule : Rule} {s s' : State} {call : Call} {turn calls : Nat} {outer : List Frame}
  {o : Objects}

/-! ## One entry -/

/-- The entry that a turn makes. -/
structure Enters (s s' : State) (x : Entry) : Prop where
  history : s'.history = x :: s.history
  objects : x.objects = s.objects
  /-- The call begins, or it has waited. -/
  origin : x.call.number = s.calls ∧ x.call.start = s.objects ∧ s'.calls = s.calls + 1 ∨
    (∃ frame ∈ s.stack, x.call = frame.call) ∧ s'.calls = s.calls
  frames : ∀ frame ∈ s'.stack, frame ∈ s.stack ∨ frame.call = x.call
  /-- The client is called as a handler of the notification. -/
  asked : ∀ turn upcall, x.event = .asked turn upcall → ∃ f argument,
    (notified x.call)[turn]? = some f ∧ s'.objects.HasFunction f ∧
      upcall = .invoke (s'.objects.function f).endpoint argument ∧
        argument.available? = some (announced x.call).available
  disposed : ∀ reply a, x.event = .returned reply → x.call.operation.disposed? = some a →
    x.call.number = s.calls ∧ s'.objects.Disposed a.wrapper

theorem Comes.asked_of {queue : List FunctionId} (h : Comes s call turn calls outer o queue s')
    (hqueue : queue = (notified call).drop turn) (hhas : ∀ f ∈ notified call, o.HasFunction f)
    {x : Entry} (hx : s'.history = x :: s.history) {turn' : Nat} {upcall : Upcall}
    (hevent : x.event = .asked turn' upcall) :
    ∃ f argument, (notified call)[turn']? = some f ∧ s'.objects.HasFunction f ∧
      upcall = .invoke (s'.objects.function f).endpoint argument ∧
        argument.available? = some (announced call).available := by
  cases h with
  | returned | panicked =>
    obtain rfl := (List.cons.inj hx).1
    cases hevent
  | @asked handler rest argument tail value reports =>
    obtain rfl := (List.cons.inj hx).1
    obtain ⟨rfl, rfl⟩ := Nested.Event.asked.inj hevent
    obtain ⟨hhandler, _⟩ := of_drop_eq_cons hqueue.symm
    exact ⟨handler, argument, hhandler, hhas _ (List.mem_of_getElem? hhandler), rfl, value⟩

theorem notified_of_disposed {op : Operation} {a : NetworkAdapter} (h : op.disposed? = some a)
    (o : Objects) : op.notified o = [] := by
  cases op
  case dispose | drop => rfl
  all_goals cases h

theorem Turn.enters (h : Turn rule s s') (hs : Sound s) : ∃ x, Enters s s' x := by
  cases h with
  | @begin op o tail allowed begins comes =>
    obtain ⟨⟨event, hhistory⟩, hchanges, hcalls, hframes⟩ := comes.after
    refine ⟨_, hhistory, rfl, Or.inl ⟨rfl, rfl, hcalls⟩, hframes, fun turn upcall hevent => ?_, ?_⟩
    · exact comes.asked_of rfl
        (fun f hf => begins.hasFunction (hs.wired.hasFunction_of_notified hf)) hhistory hevent
    · exact fun reply a _ hop => ⟨rfl, hchanges.disposed (begins.disposes a hop)⟩
  | @goOn frame outer stack comes =>
    have hmem : frame ∈ s.stack := stack ▸ List.mem_cons_self
    obtain ⟨⟨event, hhistory⟩, hchanges, hcalls, hframes⟩ := comes.after
    refine ⟨_, hhistory, rfl, Or.inr ⟨⟨frame, hmem, rfl⟩, hcalls⟩, fun other hother => ?_,
      fun turn upcall hevent => ?_, ?_⟩
    · exact (hframes other hother).imp (fun hmem => stack ▸ List.mem_cons_of_mem _ hmem) id
    · exact comes.asked_of rfl (hs.functions frame hmem) hhistory hevent
    · intro reply a _ hop
      exact absurd (notified_of_disposed hop _) (hs.frames frame hmem).handlers

/-! ## All entries -/

/-- Entries and calls belong together. -/
structure Recorded (s : State) : Prop where
  numbered : ∀ x ∈ s.history, x.call.number < s.calls
  unique : ∀ x ∈ s.history, ∀ y ∈ s.history, x.call.number = y.call.number → x.call = y.call
  frames : ∀ frame ∈ s.stack, ∃ x ∈ s.history, x.call = frame.call
  asked : ∀ x ∈ s.history, ∀ turn upcall, x.event = .asked turn upcall → ∃ f argument,
    (notified x.call)[turn]? = some f ∧ s.objects.HasFunction f ∧
      upcall = .invoke (s.objects.function f).endpoint argument ∧
        argument.available? = some (announced x.call).available

/-- The call of a new entry is new, or it has an entry already. -/
theorem Recorded.call_cases {x : Entry} (h : Recorded s) (hx : Enters s s' x) :
    x.call.number = s.calls ∨ ∃ y ∈ s.history, y.call = x.call := by
  rcases hx.origin with ⟨hnumber, _⟩ | ⟨⟨frame, hframe, hcall⟩, _⟩
  · exact Or.inl hnumber
  · obtain ⟨y, hy, hsame⟩ := h.frames frame hframe
    exact Or.inr ⟨y, hy, hsame.trans hcall.symm⟩

theorem Recorded.next {x : Entry} (h : Recorded s) (hx : Enters s s' x)
    (hmoves : Moves s.objects s'.objects) : Recorded s' where
  numbered := by
    rw [hx.history]
    refine List.forall_mem_cons.mpr ⟨?_, fun y hy => ?_⟩
    · rcases hx.origin with ⟨hnumber, _, hcalls⟩ | ⟨⟨frame, hframe, hcall⟩, hcalls⟩
      · omega
      · obtain ⟨y, hy, hsame⟩ := h.frames frame hframe
        rw [hcall, ← hsame, hcalls]
        exact h.numbered y hy
    · have hnumber := h.numbered y hy
      rcases hx.origin with ⟨_, _, hcalls⟩ | ⟨_, hcalls⟩ <;> omega
  unique := by
    -- The new entry is of a new call, or of one that has an entry already.
    have new : ∀ y ∈ s.history, x.call.number = y.call.number → x.call = y.call := by
      intro y hy hsame
      rcases h.call_cases hx with hnumber | ⟨z, hz, hcall⟩
      · have hlt := h.numbered y hy
        omega
      · rw [← hcall] at hsame ⊢
        exact h.unique z hz y hy hsame
    rw [hx.history]
    refine List.forall_mem_cons.mpr ⟨List.forall_mem_cons.mpr ⟨fun _ => rfl, new⟩, fun y hy => ?_⟩
    exact List.forall_mem_cons.mpr
      ⟨fun hsame => (new y hy hsame.symm).symm, h.unique y hy⟩
  frames := by
    intro frame hframe
    rw [hx.history]
    rcases hx.frames frame hframe with hold | hnew
    · obtain ⟨y, hy, hcall⟩ := h.frames frame hold
      exact ⟨y, List.mem_cons_of_mem _ hy, hcall⟩
    · exact ⟨x, List.mem_cons_self, hnew.symm⟩
  asked := by
    rw [hx.history]
    refine List.forall_mem_cons.mpr ⟨hx.asked, fun y hy turn upcall hevent => ?_⟩
    obtain ⟨f, argument, hf, hhas, hupcall, hvalue⟩ := h.asked y hy turn upcall hevent
    obtain ⟨hhas', hfunction⟩ := hmoves.functionsKept f hhas
    exact ⟨f, argument, hf, hhas', hfunction ▸ hupcall, hvalue⟩

theorem recorded_initial : Recorded .initial where
  numbered := by simp [Nested.State.initial]
  unique := by simp [Nested.State.initial]
  frames := by simp [Nested.State.initial]
  asked := by simp [Nested.State.initial]

/-! ## Runs -/

/-- What holds at the beginning of a run and is kept by every turn holds at its end. -/
theorem run_induct {P : State → Prop} (hvalid : ∀ s op, rule s op → op.Valid s.objects)
    (hs : Sound s) (hrecorded : Recorded s) (hfirst : P s)
    (hturn : ∀ {s s' x}, Sound s → Recorded s → Sound s' → Recorded s' → Turn rule s s' →
      Enters s s' x → P s → P s') (hrun : Nested.Run Operation.activity rule s s') :
    Sound s' ∧ Recorded s' ∧ P s' := by
  induction hrun with
  | refl => exact ⟨hs, hrecorded, hfirst⟩
  | tail _ hstep ih =>
    obtain ⟨hs, hrecorded, hp⟩ := ih
    have h := hs.step hvalid hstep
    obtain ⟨x, hx⟩ := h.enters hs
    have hs' := h.sound hs
    have hrecorded' := hrecorded.next hx h.moves
    exact ⟨hs', hrecorded', hturn hs hrecorded hs' hrecorded' h hx hp⟩

end Hostlink.Notifying
