import Mathlib.Logic.Relation
import Hostlink.Proofs.Interleaving.Basic

/-!
# Runs under a schedule

A schedule chooses, one after the other, what happens next: a thread begins an operation, goes on
with its innermost call, or lets the client answer or panic.  A choice that is not possible changes
nothing, so following a schedule is a run (`Run.follow`).

Schedules can be computed.
-/

namespace Hostlink

instance (o : Objects) : (b : BridgeId) → Decidable (o.HasBridge b)
  | .standalone index => inferInstanceAs (Decidable (index < o.bridges.next))
  | .ofWrapper w => inferInstanceAs (Decidable (w.index < o.wrappers.next))

instance (o : Objects) (f : FunctionId) : Decidable (o.HasFunction f) :=
  inferInstanceAs (Decidable (f.index < o.functions.next))

instance (o : Objects) (e : EventId) : Decidable (o.HasEvent e) :=
  inferInstanceAs (Decidable (e.index < o.events.next))

instance (o : Objects) (w : WrapperId) : Decidable (o.HasWrapper w) :=
  inferInstanceAs (Decidable (w.index < o.wrappers.next))

instance (o : Objects) : (registrar : Registrar) → Decidable (registrar.Valid o)
  | .addTo e => inferInstanceAs (Decidable (o.HasEvent e))
  | .client _ => inferInstanceAs (Decidable True)

instance (o : Objects) : (op : Operation) → Decidable (op.Valid o)
  | .makeFunction | .makeEvent | .makeBridge | .makeWrapper _ _ =>
    inferInstanceAs (Decidable True)
  | .invoke f _ => inferInstanceAs (Decidable (o.HasFunction f))
  | .add e handler | .remove e handler =>
    inferInstanceAs (Decidable (o.HasEvent e ∧ o.HasFunction handler))
  | .raise e _ | .count e | .clear e => inferInstanceAs (Decidable (o.HasEvent e))
  | .registerMember b _ _ | .releaseAll b | .len b _ | .totalLen b | .isEmpty b | .isReleased b
  | .showBridge b => inferInstanceAs (Decidable (o.HasBridge b))
  | .attach b _ callback _ registrar =>
    inferInstanceAs (Decidable (o.HasBridge b ∧ o.HasFunction callback ∧ registrar.Valid o))
  | .tryDetach b _ callback => inferInstanceAs (Decidable (o.HasBridge b ∧ o.HasFunction callback))
  | .detachFrom b _ callback e =>
    inferInstanceAs (Decidable (o.HasBridge b ∧ o.HasFunction callback ∧ o.HasEvent e))
  | .dispose w | .drop w | .isDisposed w | .ensureLive w =>
    inferInstanceAs (Decidable (o.HasWrapper w))

/-- An answer of the client to a call; a close ends with `closed`. -/
def Upcall.reply (closed : Except HostError Unit) : (upcall : Upcall) → upcall.Reply
  | .invoke _ _ => ()
  | .convert _ argument => argument
  | .register _ _ => ()
  | .unregister _ _ => ()
  | .close _ => closed

namespace Interleaving

/-! ## Choices -/

/-- What happens next. -/
inductive Choice where
  | begin (thread : Nat) (op : Operation)
  /-- The innermost call of a thread goes on. -/
  | go (thread : Nat)
  /-- The client answers the innermost call of a thread; a close ends with `closed`. -/
  | answer (thread : Nat) (closed : Except HostError Unit)
  /-- The client panics instead. -/
  | fail (thread : Nat) (message : String)

/-- A thread goes on with its innermost call for some deeds. -/
def goOn (thread deeds : Nat) : List Choice := List.replicate deeds (.go thread)

namespace Progress

/-- The next deed of a call that does not wait for the client. -/
def go (o : Objects) : Progress → Option (Deed × Progress)
  | .running (.step effect next) => some (.did effect, .running (next o))
  | .running (.acquire lock next) => some (.took lock, .running next)
  | .running (.release lock next) => some (.gave lock, .running next)
  | .running (.call upcall next) => some (.asked upcall, .waiting upcall next)
  | .running (.done answer) => some (.returned answer, .ended)
  | .running (.panicked message) => some (.panicked message, .ended)
  | _ => none

/-- The client's answer. -/
def answer (closed : Except HostError Unit) : Progress → Option (Deed × Progress)
  | .waiting upcall next =>
    some (.answered upcall (upcall.reply closed), .running (next (upcall.reply closed)))
  | _ => none

/-- The client's panic. -/
def fail (message : String) : Progress → Option (Deed × Progress)
  | .waiting _ _ => some (.failed message, .running (.panicked message))
  | _ => none

variable {o : Objects} {p p' : Progress} {deed : Deed}

theorem does_of_go (h : p.go o = some (deed, p')) : p.Does o deed p' := by
  unfold go at h
  split at h
  all_goals cases h
  · exact .step
  · exact .take
  · exact .give
  · exact .ask
  · exact .finish
  · exact .panic

theorem does_of_answer {closed : Except HostError Unit} (h : p.answer closed = some (deed, p')) :
    p.Does o deed p' := by
  unfold answer at h
  split at h
  all_goals cases h
  exact .answer _

theorem does_of_fail {message : String} (h : p.fail message = some (deed, p')) :
    p.Does o deed p' := by
  unfold fail at h
  split at h
  all_goals cases h
  exact .fail _

end Progress

instance (o : Objects) (h : History) (op : Operation) : Decidable (Rule.any o h op) :=
  .isTrue trivial

/-! ## Following a schedule -/

namespace State

instance (s : State) (thread : Nat) : Decidable (s.ClientTurn thread) :=
  match h : s.frames.find? (·.thread = thread) with
  | none => .isTrue fun frame hframe => by rw [h] at hframe; cases hframe
  | some frame =>
    match hp : frame.progress with
    | .waiting _ _ => .isTrue fun frame' hframe => by
      rw [h] at hframe
      rw [← Option.some.inj hframe, hp]
      trivial
    | .running _ => .isFalse fun hturn => by
      have hwaits := hturn frame h
      rw [hp] at hwaits
      exact hwaits
    | .ended => .isFalse fun hturn => by
      have hwaits := hturn frame h
      rw [hp] at hwaits
      exact hwaits

instance (s : State) (lock : Lock) : Decidable (s.Free lock) :=
  inferInstanceAs (Decidable (∀ frame ∈ s.frames, lock ∉ held (logOf s.history frame.call)))

/-- Whether a deed can be done as far as locks go. -/
def Allows (s : State) : Deed → Prop
  | .took lock => s.Free lock
  | _ => True

instance (s : State) : (deed : Deed) → Decidable (s.Allows deed)
  | .took lock => inferInstanceAs (Decidable (s.Free lock))
  | .begun | .gave _ | .did _ | .asked _ | .answered _ _ | .failed _ | .returned _ | .panicked _ =>
    inferInstanceAs (Decidable True)

/-- The innermost call of a thread does what `choose` says, if it can. -/
def advance (s : State) (thread : Nat) (choose : Progress → Option (Deed × Progress)) : State :=
  match s.frames.dropWhile (·.thread ≠ thread) with
  | [] => s
  | frame :: after =>
    match choose frame.progress with
    | none => s
    | some (deed, progress) =>
      if s.Allows deed then
        s.move (s.frames.takeWhile (·.thread ≠ thread)) frame after deed progress
      else s

variable (rule : Rule) [∀ o h op, Decidable (rule o h op)]

/-- The state after a choice. -/
def choose (s : State) : Choice → State
  | .begin thread op =>
    if s.ClientTurn thread ∧ op.Valid s.objects ∧ rule s.objects s.history op then
      s.begin thread op
    else s
  | .go thread => s.advance thread (·.go s.objects)
  | .answer thread closed => s.advance thread (·.answer closed)
  | .fail thread message => s.advance thread (·.fail message)

/-- The state after the choices of a schedule. -/
def follow (s : State) (schedule : List Choice) : State := schedule.foldl (choose rule) s

end State

variable {rule : Rule} {s : State}

/-- A choice of what a call does is a step of a run, if it is possible. -/
theorem State.step_of_advance (rule : Rule) (s : State) (thread : Nat)
    {choose : Progress → Option (Deed × Progress)}
    (hchoose : ∀ {p p' deed}, choose p = some (deed, p') → p.Does s.objects deed p') :
    s.advance thread choose = s ∨ Step rule s (s.advance thread choose) := by
  unfold State.advance
  split
  next => exact Or.inl rfl
  next frame after hframes =>
    split
    next => exact Or.inl rfl
    next deed progress hdeed =>
      split
      next hallows =>
        have hsplit : s.frames = s.frames.takeWhile (·.thread ≠ thread) ++ frame :: after := by
          rw [← hframes, List.takeWhile_append_dropWhile]
        have hthread : frame.thread = thread := by
          have hhead :=
            List.head?_dropWhile_not (fun f : Frame => decide (f.thread ≠ thread)) s.frames
          rw [hframes] at hhead
          simpa using hhead
        refine Or.inr (.move hsplit ?_ (hchoose hdeed) ?_)
        · intro other hother
          have hne := List.all_eq_true.mp List.all_takeWhile other hother
          rw [hthread]
          simpa using hne
        · rintro lock rfl
          exact hallows
      next => exact Or.inl rfl

/-- So is any choice. -/
theorem State.step_of_choose (rule : Rule) [∀ o h op, Decidable (rule o h op)] (s : State)
    (choice : Choice) : s.choose rule choice = s ∨ Step rule s (s.choose rule choice) := by
  cases choice with
  | begin thread op =>
    unfold State.choose
    dsimp only
    split
    next h => exact Or.inr (.begin thread h.1 h.2.1 h.2.2)
    next => exact Or.inl rfl
  | go thread => exact s.step_of_advance rule thread Progress.does_of_go
  | answer thread closed => exact s.step_of_advance rule thread Progress.does_of_answer
  | fail thread message => exact s.step_of_advance rule thread Progress.does_of_fail

/-- Whether a run can lead from one state to another. -/
abbrev Run (rule : Rule) : State → State → Prop := Relation.ReflTransGen (Step rule)

theorem Run.follow [∀ o h op, Decidable (rule o h op)] (s : State) (schedule : List Choice) :
    Run rule s (s.follow rule schedule) := by
  induction schedule generalizing s with
  | nil => exact .refl
  | cons choice rest ih =>
    refine Relation.ReflTransGen.trans ?_ (ih (s.choose rule choice))
    rcases s.step_of_choose rule choice with hsame | hstep
    · rw [hsame]
    · exact .single hstep

theorem Reachable.run {s' : State} (hs : Reachable rule s) (h : Run rule s s') :
    Reachable rule s' := by
  induction h with
  | refl => exact hs
  | tail _ hstep ih => exact ih.step hstep

/-- Every schedule leads to a state that a run can come to. -/
theorem Reachable.follow [∀ o h op, Decidable (rule o h op)] (hs : Reachable rule s)
    (schedule : List Choice) : Reachable rule (s.follow rule schedule) :=
  hs.run (.follow s schedule)

end Interleaving
end Hostlink
