import Hostlink.Proofs.Notifying.Beginning

/-!
# Runs of notifications

Callbacks are called by notifications only, so a call that waits for the client is a notification,
with the handlers that it has still to call.  `Sound.step` says what one step of a run is: a call
begins or goes on, and then it calls its next handler, or it has none left and returns, or it panics.
-/

namespace Hostlink.Notifying

open Network (Reply)

variable {rule : Rule} {s s' : State} {call : Call} {turn calls : Nat} {outer : List Frame}
  {o : Objects} {f : FunctionId}

/-! ## Calling the next handler -/

/-- Handlers that are wired convert an observation to what callers receive, unless its time is not in
the calendar. -/
theorem convertThrough_cases (hw : Wired o) (f : FunctionId) (value : Availability) :
    (∃ argument, argument.available? = some value.available ∧
      (convertThrough (o.function f).converters (.status value) : Activity Unit Payload) =
        .done argument) ∨
    ∃ message, (convertThrough (o.function f).converters (.status value) : Activity Unit Payload) =
      .panicked message := by
  rcases hw.functions f with hown | hbridged
  · rw [hown]
    exact Or.inl ⟨.status value, rfl, rfl⟩
  · rw [hbridged, convertThrough, Converter.apply]
    cases hat : value.at? with
    | none => exact Or.inl ⟨.change value, rfl, rfl⟩
    | some t =>
      by_cases ht : t.inCalendar
      · simp only [ht, ↓reduceIte]
        exact Or.inl ⟨.change value, rfl, rfl⟩
      · simp only [ht]
        exact Or.inr ⟨_, rfl⟩

theorem invoke_bind (f : FunctionId) (argument : Payload) (next : Unit → Activity Unit Reply) :
    (f.invoke argument).bind next =
      (Activity.inspect fun o => o.function f).bind fun function =>
        (convertThrough function.converters argument).bind fun argument =>
          .call (.invoke function.endpoint argument) next := by
  have hinvoke : (f.invoke argument : Activity Unit Unit) =
      (Activity.inspect fun o => o.function f).bind fun function =>
        (convertThrough function.converters argument).bind fun argument =>
          .call (.invoke function.endpoint argument) .done := rfl
  rw [hinvoke, Activity.bind_assoc]
  refine congrArg _ (funext fun function => ?_)
  rw [Activity.bind_assoc]
  rfl

/-- What the next one of the items that are left is. -/
theorem of_drop_eq_cons {γ : Type} {items rest : List γ} {item : γ}
    (h : items.drop turn = item :: rest) :
    items[turn]? = some item ∧ items.drop (turn + 1) = rest := by
  constructor
  · rw [← List.head?_drop, h]
    rfl
  · rw [← List.drop_drop, h]
    rfl

/-- What a call comes to that has these handlers still to call. -/
inductive Comes (s : State) (call : Call) (turn calls : Nat) (outer : List Frame) (o : Objects) :
    List FunctionId → State → Prop
  | returned (reply : Reply) (notices : List Log.Event) :
    Comes s call turn calls outer o []
      ⟨{ o with notices }, [], outer, calls, ⟨call, .returned reply, s.objects⟩ :: s.history⟩
  | asked {handler : FunctionId} {rest : List FunctionId} {argument : Payload}
    {tail : Activity Unit Reply} (value : argument.available? = some (announced call).available)
    (reports : Reports tail) :
    Comes s call turn calls outer o (handler :: rest)
      ⟨o, [], ⟨call, turn, .asks (.invoke (o.function handler).endpoint argument) fun _ =>
        (notify rest (announced call)).bind fun _ => tail⟩ :: outer, calls,
        ⟨call, .asked turn (.invoke (o.function handler).endpoint argument), s.objects⟩ ::
          s.history⟩
  | panicked (queue : List FunctionId) (message : String) :
    Comes s call turn calls outer o queue
      ⟨o, [], outer, calls, ⟨call, .panicked message, s.objects⟩ :: s.history⟩

/-- What a notification comes to. -/
theorem Comes.of_settle {queue : List FunctionId} {tail : Activity Unit Reply} (hw : Wired o)
    (hreports : Reports tail) (houter : call.outer = [])
    (hsettle : s.settle call turn calls outer
      (((notify queue (announced call)).bind fun _ => tail).proceed [] o) = some s') :
    Comes s call turn calls outer o queue s' := by
  cases queue with
  | nil =>
    obtain ⟨reply, notices, hproceed⟩ := hreports o
    have hnil : ((notify [] (announced call)).bind fun _ => tail).proceed [] o = _ := hproceed
    rw [hnil] at hsettle
    cases hsettle
    exact .returned reply notices
  | cons handler rest =>
    have hnotify : (notify (handler :: rest) (announced call)).bind (fun _ => tail) =
        (handler.invoke (.status (announced call))).bind fun _ =>
          (notify rest (announced call)).bind fun _ => tail := Activity.bind_assoc ..
    rw [hnotify, invoke_bind, Activity.proceed_inspect] at hsettle
    rcases convertThrough_cases hw handler (announced call) with ⟨argument, hvalue, hconvert⟩ | h
    · rw [hconvert] at hsettle
      cases hsettle
      exact .asked hvalue hreports
    · obtain ⟨message, hconvert⟩ := h
      rw [hconvert] at hsettle
      cases hsettle
      rw [houter]
      exact .panicked _ message

/-! ## Sound states -/

/-- A frame of a notification. -/
structure Notifies (frame : Frame) : Prop where
  locks : frame.call.outer = []
  handlers : notified frame.call ≠ []
  pause : ∃ function argument tail, Reports tail ∧
    frame.pause = .asks (.invoke function argument) fun _ =>
      (notify (remaining frame) (announced frame.call)).bind fun _ => tail

/-- A state of a run: the objects are wired, and every call that waits is a notification. -/
structure Sound (s : State) : Prop where
  wired : Wired s.objects
  held : s.held = []
  frames : ∀ frame ∈ s.stack, Notifies frame
  functions : ∀ frame ∈ s.stack, ∀ f ∈ notified frame.call, s.objects.HasFunction f

/-- What one step of a run is. -/
inductive Turn (rule : Rule) (s s' : State) : Prop
  | begin {op : Operation} {o : Objects} {tail : Activity Unit Reply} (allowed : rule s op)
    (begins : Begins op s.objects o tail)
    (comes : Comes s ⟨s.calls, op, s.objects, []⟩ 0 (s.calls + 1) s.stack o
      (op.notified s.objects) s')
  | goOn {frame : Frame} {outer : List Frame} (stack : s.stack = frame :: outer)
    (comes : Comes s frame.call (frame.turn + 1) s.calls outer s.objects (remaining frame) s')

theorem Wired.observed (hw : Wired o) (op : Operation) : Wired (op.observed o) := by
  unfold Operation.observed
  split
  · exact hw.modifySource _ _
  · exact hw

theorem Begins.wired {op : Operation} {o₁ : Objects} {tail : Activity Unit Reply}
    (h : Begins op o o₁ tail) (hw : Wired o) : Wired o₁ := h.changes.wired (hw.observed op)

/-- A step from a sound state is a turn. -/
theorem Sound.step (h : Sound s) (hvalid : ∀ s op, rule s op → op.Valid s.objects)
    (hstep : Nested.Step Operation.activity rule s s') : Turn rule s s' := by
  cases hstep with
  | begin op allowed settles =>
    obtain ⟨o, tail, hbegins⟩ := begins h.wired (hvalid s op allowed)
    rw [Nested.State.begin, h.held, hbegins.proceeds] at settles
    exact .begin allowed hbegins (.of_settle (hbegins.wired h.wired) hbegins.reports rfl settles)
  | @answer frame outer upcall next reply stack asks settles =>
    have hframe := h.frames frame (stack ▸ List.mem_cons_self)
    obtain ⟨function, argument, tail, hreports, hpause⟩ := hframe.pause
    rw [hpause] at asks
    cases asks
    rw [Nested.State.resume, h.held] at settles
    exact .goOn stack (.of_settle h.wired hreports hframe.locks settles)
  | @fail frame outer message stack settles =>
    have hframe := h.frames frame (stack ▸ List.mem_cons_self)
    rw [Nested.State.resume, h.held] at settles
    cases settles
    rw [hframe.locks]
    exact .goOn stack (.panicked _ message)

/-- What a call comes to leaves a sound state. -/
theorem Comes.sound {queue : List FunctionId} (h : Comes s call turn calls outer o queue s')
    (hw : Wired o) (hcall : call.outer = []) (hqueue : queue = (notified call).drop turn)
    (hhas : ∀ f ∈ notified call, o.HasFunction f) (houter : ∀ frame ∈ outer, Notifies frame)
    (houterHas : ∀ frame ∈ outer, ∀ f ∈ notified frame.call, o.HasFunction f) : Sound s' := by
  cases h with
  | returned reply notices => exact ⟨(Change.report notices).wired hw, rfl, houter, houterHas⟩
  | panicked queue message => exact ⟨hw, rfl, houter, houterHas⟩
  | @asked handler rest argument tail value reports =>
    obtain ⟨_, hrest⟩ := of_drop_eq_cons hqueue.symm
    have hhandlers : notified call ≠ [] := by
      intro hnil
      rw [hnil, List.drop_nil] at hqueue
      cases hqueue
    have hframe : Notifies ⟨call, turn, .asks (.invoke (o.function handler).endpoint argument) fun _ =>
        (notify rest (announced call)).bind fun _ => tail⟩ := by
      refine ⟨hcall, hhandlers, (o.function handler).endpoint, argument, tail, reports, ?_⟩
      rw [remaining, hrest]
    exact ⟨hw, rfl, List.forall_mem_cons.mpr ⟨hframe, houter⟩,
      List.forall_mem_cons.mpr ⟨hhas, houterHas⟩⟩

/-- Handlers that an operation notifies exist. -/
theorem Wired.hasFunction_of_notified {op : Operation} (hw : Wired o) (hf : f ∈ op.notified o) :
    o.HasFunction f := by
  unfold Operation.notified at hf
  split at hf
  · exact (hw.handlers _ f hf).1
  · cases hf

theorem Begins.hasFunction {op : Operation} {o₁ : Objects} {tail : Activity Unit Reply}
    (h : Begins op o o₁ tail) (hf : o.HasFunction f) : o₁.HasFunction f := by
  refine (h.changes.functionsKept f ?_).1
  unfold Operation.observed
  split
  · exact hf
  · exact hf

theorem Turn.sound (h : Turn rule s s') (hs : Sound s) : Sound s' := by
  cases h with
  | begin allowed begins comes =>
    exact comes.sound (begins.wired hs.wired) rfl rfl
      (fun f hf => begins.hasFunction (hs.wired.hasFunction_of_notified hf)) hs.frames
      fun frame hframe f hf => begins.hasFunction (hs.functions frame hframe f hf)
  | @goOn frame outer stack comes =>
    have hmem : frame ∈ s.stack := stack ▸ List.mem_cons_self
    have houter : ∀ other ∈ outer, other ∈ s.stack :=
      fun other hother => stack ▸ List.mem_cons_of_mem _ hother
    exact comes.sound hs.wired (hs.frames frame hmem).locks rfl (hs.functions frame hmem)
      (fun other hother => hs.frames other (houter other hother))
      fun other hother => hs.functions other (houter other hother)

theorem sound_initial : Sound .initial where
  wired := .empty
  held := rfl
  frames := by simp [Nested.State.initial]
  functions := by simp [Nested.State.initial]

/-! ## What a turn leaves -/

/-- What a call comes to is recorded, and nothing but a report is changed. -/
theorem Comes.after {queue : List FunctionId} (h : Comes s call turn calls outer o queue s') :
    (∃ event, s'.history = ⟨call, event, s.objects⟩ :: s.history) ∧ Changes o s'.objects ∧
      s'.calls = calls ∧ ∀ frame ∈ s'.stack, frame ∈ outer ∨ frame.call = call := by
  cases h with
  | returned reply notices =>
    exact ⟨⟨_, rfl⟩, .single (.report notices), rfl, fun frame hframe => Or.inl hframe⟩
  | panicked queue message => exact ⟨⟨_, rfl⟩, .refl, rfl, fun frame hframe => Or.inl hframe⟩
  | asked value reports =>
    refine ⟨⟨_, rfl⟩, .refl, rfl, fun frame hframe => ?_⟩
    rcases List.mem_cons.mp hframe with rfl | hframe
    · exact Or.inr rfl
    · exact Or.inl hframe

/-- How the objects change in one turn: a source may observe something, and then they are rewired. -/
def Moves (o o' : Objects) : Prop :=
  ∃ o₁, (o₁ = o ∨ ∃ s available, o₁ = o.modifySource s ({ · with available })) ∧ Changes o₁ o'

theorem Turn.moves (h : Turn rule s s') : Moves s.objects s'.objects := by
  cases h with
  | @begin op _ _ allowed begins comes =>
    obtain ⟨_, hchanges, _⟩ := comes.after
    refine ⟨op.observed s.objects, ?_, begins.changes.trans hchanges⟩
    unfold Operation.observed
    split
    · exact Or.inr ⟨_, _, rfl⟩
    · exact Or.inl rfl
  | goOn stack comes =>
    obtain ⟨_, hchanges, _⟩ := comes.after
    exact ⟨s.objects, Or.inl rfl, hchanges⟩

namespace Moves

variable {o' : Objects} {k : WrapperId} {e : EventId}

theorem functionsKept (h : Moves o o') : Network.Picture.FunctionsKept o o' := by
  obtain ⟨o₁, rfl | ⟨s, available, rfl⟩, hchanges⟩ := h
  · exact hchanges.functionsKept
  · exact hchanges.functionsKept

theorem disposed (h : Moves o o') (hk : o.Disposed k) : o'.Disposed k := by
  obtain ⟨o₁, rfl | ⟨s, available, rfl⟩, hchanges⟩ := h
  · exact hchanges.disposed hk
  · exact hchanges.disposed hk

theorem attached_cases (h : Moves o o') (hf : Attached o' k e f) :
    Attached o k e f ∨ ¬ o.HasFunction f ∧ ¬ o.Disposed k := by
  obtain ⟨o₁, rfl | ⟨s, available, rfl⟩, hchanges⟩ := h
  · exact hchanges.attached_cases hf
  · exact hchanges.attached_cases hf

end Moves

end Hostlink.Notifying
