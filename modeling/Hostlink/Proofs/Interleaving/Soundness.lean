import Hostlink.Proofs.Interleaving.Discipline

/-!
# What holds in every run

`Sound` is the invariant of all runs.  Calls are told apart by their numbers, the log of a call is
a log of its operation, a lock is had by at most one call, and what a call knows by its log is so:
other calls change a guarded part only under its lock, so they cannot change what the call has
locked.

`Reachable.obeys` carries contracts of operations to runs, and `Reachable.induct` is the induction
on histories that later proofs use.
-/

namespace Hostlink.Interleaving

/-! ## One deed and the logs -/

theorem mem_held_cons {x : Occurrence} {log : History} {lock : Lock} (h : lock ∈ held (x :: log)) :
    x.deed = .took lock ∨ lock ∈ held log := by
  rw [held] at h
  cases hdeed : x.deed with
  | took other =>
    simp only [hdeed] at h
    rcases List.mem_cons.mp h with rfl | hmem
    · exact Or.inl rfl
    · exact Or.inr hmem
  | gave other => simp only [hdeed] at h; exact Or.inr (List.mem_of_mem_erase h)
  | panicked message => simp only [hdeed] at h; cases h
  | begun | did | asked | answered | failed | returned =>
    simp only [hdeed] at h
    exact Or.inr h

/-- A lock is had until it is given, unless the call panics. -/
theorem mem_held_cons_of_mem {x : Occurrence} {log : History} {lock : Lock} (h : lock ∈ held log)
    (hgave : x.deed ≠ .gave lock) (hpanic : ∀ message, x.deed ≠ .panicked message) :
    lock ∈ held (x :: log) := by
  rw [held]
  cases hdeed : x.deed with
  | took other => exact List.mem_cons_of_mem _ h
  | gave other =>
    have hne : lock ≠ other := fun heq => hgave (by rw [hdeed, heq])
    exact (List.mem_erase_of_ne hne).mpr h
  | panicked message => exact absurd hdeed (hpanic message)
  | begun | did | asked | answered | failed | returned => exact h

/-- What a call knows is kept up to date by its own deeds. -/
theorem Agrees.next {call : Nat} {op : Operation} {log : History} {o : Objects}
    (h : Agrees log o) (deed : Deed) :
    Agrees (⟨call, op, deed, o⟩ :: log) (deed.apply o) := by
  intro lock part hpart
  cases deed with
  | took other =>
    simp only [known] at hpart
    split at hpart
    · exact Option.some.inj hpart
    · exact h lock part hpart
  | gave other =>
    simp only [known] at hpart
    split at hpart
    · cases hpart
    · exact h lock part hpart
  | did effect =>
    simp only [known] at hpart
    obtain ⟨_, _, heq⟩ := Option.map_eq_some_iff.mp hpart
    exact heq
  | panicked message => cases hpart
  | begun | asked | answered | failed | returned => exact h lock part hpart

/-- A call that has ended has no locks. -/
theorem Traced.held_eq_nil {call : Nat} {op : Operation} {log : History}
    (h : Traced call op log .ended) : held log = [] := by
  have hobeys := (h.obeys (keeps_abiding op)).1
  cases h with
  | deed _ does _ =>
    cases does with
    | finish => exact hobeys.1
    | panic => rfl

/-- An operation stays valid, whatever happens. -/
theorem Deed.valid_apply {op : Operation} {o : Objects} (deed : Deed) (h : op.Valid o) :
    op.Valid (deed.apply o) := by
  cases deed with
  | did effect => exact Effect.valid h
  | begun | took | gave | asked | answered | failed | returned | panicked => exact h

/-- A deed that is no effect under the lock of a table leaves the table alone. -/
theorem Deed.table_apply_of_ne {deed : Deed} {b : BridgeId}
    (h : ∀ effect, deed = .did effect → effect.lock? ≠ some (.table b)) (o : Objects) :
    (deed.apply o).table b = o.table b := by
  cases deed with
  | did effect => exact Effect.table_apply_of_ne (h effect rfl) o
  | begun | took | gave | asked | answered | failed | returned | panicked => rfl

/-- A deed that is no effect under the lock of an event leaves its handlers alone. -/
theorem Deed.event_apply_of_ne {deed : Deed} {e : EventId}
    (h : ∀ effect, deed = .did effect → effect.lock? ≠ some (.handlers e)) (o : Objects) :
    (deed.apply o).event e = o.event e := by
  cases deed with
  | did effect => exact Effect.event_apply_of_ne (h effect rfl) o
  | begun | took | gave | asked | answered | failed | returned | panicked => rfl

/-! ## The invariant -/

/-- What holds in every state that a run comes to. -/
structure Sound (s : State) : Prop where
  history_lt : ∀ x ∈ s.history, x.call < s.calls
  frames_lt : ∀ f ∈ s.frames, f.call < s.calls
  nodup : (s.frames.map (·.call)).Nodup
  traced : ∀ f ∈ s.frames, Traced f.call f.operation (logOf s.history f.call) f.progress
  ended : ∀ c < s.calls, c ∉ s.frames.map (·.call) →
    ∃ op, Traced c op (logOf s.history c) .ended
  exclusive : ∀ f ∈ s.frames, ∀ g ∈ s.frames, ∀ lock, lock ∈ held (logOf s.history f.call) →
    lock ∈ held (logOf s.history g.call) → f.call = g.call
  agrees : ∀ f ∈ s.frames, Agrees (logOf s.history f.call) s.objects
  valid : ∀ f ∈ s.frames, f.operation.Valid s.objects

namespace Sound

variable {s : State}

theorem initial : Sound .initial where
  history_lt := by simp [State.initial]
  frames_lt := by simp [State.initial]
  nodup := List.nodup_nil
  traced := by simp [State.initial]
  ended := by simp [State.initial]
  exclusive := by simp [State.initial]
  agrees := by simp [State.initial]
  valid := by simp [State.initial]

/-- Nothing has happened in a call that has not begun. -/
theorem logOf_eq_nil (h : Sound s) {call : Nat} (hcall : s.calls ≤ call) :
    logOf s.history call = [] := by
  rw [logOf, List.filter_eq_nil_iff]
  intro x hx
  have hlt := h.history_lt x hx
  simp only [decide_eq_true_eq]
  omega

theorem begin (h : Sound s) {thread : Nat} {op : Operation} (hvalid : op.Valid s.objects) :
    Sound (s.begin thread op) := by
  have hself : logOf (s.begin thread op).history s.calls = [⟨s.calls, op, .begun, s.objects⟩] := by
    rw [State.begin, logOf_cons_self rfl, h.logOf_eq_nil (Nat.le_refl _)]
  have hother : ∀ c, c < s.calls → logOf (s.begin thread op).history c = logOf s.history c :=
    fun c hc => logOf_cons_of_ne (Nat.ne_of_gt hc)
  have hframe : ∀ f ∈ (s.begin thread op).frames,
      f = ⟨s.calls, thread, op, .running op.activity⟩ ∨ f ∈ s.frames :=
    fun f hf => List.mem_cons.mp hf
  constructor
  case history_lt =>
    intro x hx
    rcases List.mem_cons.mp hx with rfl | hx
    · exact Nat.lt_succ_self _
    · exact Nat.lt_succ_of_lt (h.history_lt x hx)
  case frames_lt =>
    intro f hf
    rcases hframe f hf with rfl | hf
    · exact Nat.lt_succ_self _
    · exact Nat.lt_succ_of_lt (h.frames_lt f hf)
  case nodup =>
    refine List.nodup_cons.mpr ⟨?_, h.nodup⟩
    intro hmem
    obtain ⟨f, hf, hcall⟩ := List.mem_map.mp hmem
    exact Nat.ne_of_lt (h.frames_lt f hf) hcall
  case traced =>
    intro f hf
    rcases hframe f hf with rfl | hf
    · rw [hself]
      exact .begun hvalid
    · rw [hother _ (h.frames_lt f hf)]
      exact h.traced f hf
  case ended =>
    intro c hc hnot
    have hne : c ≠ s.calls := fun heq => hnot (by simp [State.begin, heq])
    have hlt : c < s.calls := by
      have hle : c < s.calls + 1 := hc
      omega
    rw [hother c hlt]
    exact h.ended c hlt fun hmem => hnot (List.mem_cons_of_mem _ hmem)
  case exclusive =>
    intro f hf g hg lock hlf hlg
    rcases hframe f hf with rfl | hf
    · rw [hself] at hlf
      cases hlf
    · rcases hframe g hg with rfl | hg
      · rw [hself] at hlg
        cases hlg
      · rw [hother _ (h.frames_lt f hf)] at hlf
        rw [hother _ (h.frames_lt g hg)] at hlg
        exact h.exclusive f hf g hg lock hlf hlg
  case agrees =>
    intro f hf
    rcases hframe f hf with rfl | hf
    · rw [hself]
      intro lock part hpart
      cases hpart
    · rw [hother _ (h.frames_lt f hf)]
      exact h.agrees f hf
  case valid =>
    intro f hf
    rcases hframe f hf with rfl | hf
    · exact hvalid
    · exact h.valid f hf

/-! ### Moving on -/

section

variable {before after : List Frame} {frame : Frame} {deed : Deed} {progress : Progress}

/-- The calls other than the one that moves. -/
theorem mem_of_mem_move (h : Sound s) (hframes : s.frames = before ++ frame :: after) {f : Frame}
    (hf : f ∈ (s.move before frame after deed progress).frames) :
    f = { frame with progress } ∨ f ∈ s.frames ∧ f.call ≠ frame.call := by
  have hnodup := h.nodup
  rw [hframes, List.map_append, List.map_cons] at hnodup
  obtain ⟨_, hafter, hdisjoint⟩ := List.nodup_append.mp hnodup
  have hold : f ∈ before ∨ f ∈ after → f ∈ s.frames ∧ f.call ≠ frame.call := by
    rintro (hb | ha)
    · refine ⟨by rw [hframes]; exact List.mem_append_left _ hb, ?_⟩
      exact hdisjoint _ (List.mem_map_of_mem hb) _ List.mem_cons_self
    · refine ⟨by rw [hframes]; exact List.mem_append_right _ (List.mem_cons_of_mem _ ha), ?_⟩
      intro heq
      exact (List.nodup_cons.mp hafter).1 (heq ▸ List.mem_map_of_mem ha)
  rcases List.mem_append.mp hf with hb | hf
  · exact Or.inr (hold (Or.inl hb))
  · rcases List.mem_append.mp hf with hnew | ha
    · cases progress with
      | ended => cases hnew
      | running rest => exact Or.inl (List.mem_singleton.mp hnew)
      | waiting upcall next => exact Or.inl (List.mem_singleton.mp hnew)
    · exact Or.inr (hold (Or.inr ha))

theorem nodup_move (h : Sound s) (hframes : s.frames = before ++ frame :: after) :
    ((s.move before frame after deed progress).frames.map (·.call)).Nodup := by
  have hnodup := h.nodup
  rw [hframes] at hnodup
  have hleft : (frame.advance progress ++ after).Sublist ({ frame with progress } :: after) := by
    cases progress with
    | ended => exact List.sublist_cons_self _ _
    | running rest => exact List.Sublist.refl _
    | waiting upcall next => exact List.Sublist.refl _
  have hcalls : ((before ++ (frame.advance progress ++ after)).map (·.call)).Sublist
      ((before ++ frame :: after).map (·.call)) := by
    have hmap := ((List.Sublist.refl before).append hleft).map (·.call)
    simpa using hmap
  exact hnodup.sublist hcalls

/-- The call that moves is the only one that may have ended. -/
theorem ended_or_going_on (hframes : s.frames = before ++ frame :: after) {call : Nat}
    (hnot : call ∉ (s.move before frame after deed progress).frames.map (·.call)) :
    call = frame.call ∧ progress = .ended ∨ call ≠ frame.call ∧ call ∉ s.frames.map (·.call) := by
  by_cases hcall : call = frame.call
  · refine Or.inl ⟨hcall, ?_⟩
    cases progress with
    | ended => rfl
    | running rest => exact absurd (by simp [State.move, Frame.advance, hcall]) hnot
    | waiting upcall next => exact absurd (by simp [State.move, Frame.advance, hcall]) hnot
  · refine Or.inr ⟨hcall, ?_⟩
    rw [hframes]
    intro hin
    refine hnot ?_
    simp only [State.move, List.map_append, List.map_cons, List.mem_append, List.mem_cons] at hin ⊢
    rcases hin with hb | heq | ha
    · exact Or.inl hb
    · exact absurd heq hcall
    · exact Or.inr (Or.inr ha)

/-- A lock that is taken is free, so it stays with one call. -/
theorem exclusive_move (h : Sound s) (hframes : s.frames = before ++ frame :: after)
    (hfree : ∀ lock, deed = .took lock → s.Free lock) :
    ∀ f ∈ (s.move before frame after deed progress).frames,
      ∀ g ∈ (s.move before frame after deed progress).frames, ∀ lock,
        lock ∈ held (logOf (s.move before frame after deed progress).history f.call) →
        lock ∈ held (logOf (s.move before frame after deed progress).history g.call) →
        f.call = g.call := by
  have hmem : frame ∈ s.frames := by
    rw [hframes]
    exact List.mem_append_right _ List.mem_cons_self
  have hself : logOf (s.move before frame after deed progress).history frame.call
      = ⟨frame.call, frame.operation, deed, s.objects⟩ :: logOf s.history frame.call :=
    logOf_cons_self rfl
  have hother : ∀ c, c ≠ frame.call →
      logOf (s.move before frame after deed progress).history c = logOf s.history c :=
    fun c hc => logOf_cons_of_ne (Ne.symm hc)
  have hfresh : ∀ g ∈ s.frames, g.call ≠ frame.call → ∀ lock,
      lock ∈ held (⟨frame.call, frame.operation, deed, s.objects⟩ :: logOf s.history frame.call) →
      lock ∉ held (logOf s.history g.call) := by
    intro g hg hne lock hlock hlg
    rcases mem_held_cons hlock with htook | hold
    · exact hfree lock htook g hg hlg
    · exact hne (h.exclusive g hg frame hmem lock hlg hold)
  intro f hf g hg lock hlf hlg
  rcases h.mem_of_mem_move hframes hf with rfl | ⟨hf, hfne⟩
  · rcases h.mem_of_mem_move hframes hg with rfl | ⟨hg, hgne⟩
    · rfl
    · rw [hself] at hlf
      rw [hother _ hgne] at hlg
      exact absurd hlg (hfresh g hg hgne lock hlf)
  · rw [hother _ hfne] at hlf
    rcases h.mem_of_mem_move hframes hg with rfl | ⟨hg, hgne⟩
    · rw [hself] at hlg
      exact absurd hlf (hfresh f hf hfne lock hlg)
    · rw [hother _ hgne] at hlg
      exact h.exclusive f hf g hg lock hlf hlg

/-- What a call knows under its locks stays true while another call moves. -/
theorem agrees_of_ne (h : Sound s) (hmem : frame ∈ s.frames)
    (htraced : Traced frame.call frame.operation
      (⟨frame.call, frame.operation, deed, s.objects⟩ :: logOf s.history frame.call) progress)
    {f : Frame} (hf : f ∈ s.frames) (hne : f.call ≠ frame.call) :
    Agrees (logOf s.history f.call) (deed.apply s.objects) := by
  intro lock part hpart
  have hbefore : lock.guarded s.objects = part := h.agrees f hf lock part hpart
  cases deed with
  | did effect =>
    refine (Effect.guarded_apply_of_ne ?_ s.objects).trans hbefore
    intro hlock
    -- the other call has the lock, so this one may not change what it guards
    have hheld := (htraced.obeys (keeps_abiding _)).1.1.2 lock hlock
    exact hne (h.exclusive f hf frame hmem lock (mem_held_of_known hpart) hheld)
  | begun | took | gave | asked | answered | failed | returned | panicked => exact hbefore

theorem move (h : Sound s) (hframes : s.frames = before ++ frame :: after)
    (hdoes : frame.progress.Does s.objects deed progress)
    (hfree : ∀ lock, deed = .took lock → s.Free lock) :
    Sound (s.move before frame after deed progress) := by
  have hmem : frame ∈ s.frames := by
    rw [hframes]
    exact List.mem_append_right _ List.mem_cons_self
  have hself : logOf (s.move before frame after deed progress).history frame.call
      = ⟨frame.call, frame.operation, deed, s.objects⟩ :: logOf s.history frame.call :=
    logOf_cons_self rfl
  have hother : ∀ c, c ≠ frame.call →
      logOf (s.move before frame after deed progress).history c = logOf s.history c :=
    fun c hc => logOf_cons_of_ne (Ne.symm hc)
  have hframe : ∀ f ∈ (s.move before frame after deed progress).frames,
      f = { frame with progress } ∨ f ∈ s.frames ∧ f.call ≠ frame.call :=
    fun f hf => h.mem_of_mem_move hframes hf
  have htraced : Traced frame.call frame.operation
      (⟨frame.call, frame.operation, deed, s.objects⟩ :: logOf s.history frame.call) progress :=
    .deed (h.traced frame hmem) hdoes ⟨h.valid frame hmem, h.agrees frame hmem⟩
  constructor
  case history_lt =>
    intro x hx
    rcases List.mem_cons.mp hx with rfl | hx
    · exact h.frames_lt frame hmem
    · exact h.history_lt x hx
  case frames_lt =>
    intro f hf
    rcases hframe f hf with rfl | ⟨hf, _⟩
    · exact h.frames_lt frame hmem
    · exact h.frames_lt f hf
  case nodup => exact h.nodup_move hframes
  case traced =>
    intro f hf
    rcases hframe f hf with rfl | ⟨hf, hne⟩
    · rw [hself]
      exact htraced
    · rw [hother _ hne]
      exact h.traced f hf
  case ended =>
    intro c hc hnot
    rcases ended_or_going_on hframes hnot with ⟨rfl, rfl⟩ | ⟨hne, hnot⟩
    · rw [hself]
      exact ⟨_, htraced⟩
    · rw [hother c hne]
      exact h.ended c hc hnot
  case exclusive => exact h.exclusive_move hframes hfree
  case agrees =>
    intro f hf
    rcases hframe f hf with rfl | ⟨hf, hne⟩
    · rw [hself]
      exact (h.agrees frame hmem).next deed
    · rw [hother _ hne]
      exact h.agrees_of_ne hmem htraced hf hne
  case valid =>
    intro f hf
    rcases hframe f hf with rfl | ⟨hf, _⟩
    · exact deed.valid_apply (h.valid frame hmem)
    · exact deed.valid_apply (h.valid f hf)

end

end Sound

variable {rule : Rule} {s : State}

theorem Reachable.sound (h : Reachable rule s) : Sound s := by
  induction h with
  | initial => exact .initial
  | step _ hstep ih =>
    cases hstep with
    | begin thread turn valid allowed => exact ih.begin valid
    | move frames innermost does free => exact ih.move frames does free

/-! ## Calls in a run -/

/-- The log of a call is a log of an operation, unless the call has not begun. -/
theorem Reachable.exists_traced (h : Reachable rule s) (call : Nat) :
    logOf s.history call = [] ∨ ∃ op p, Traced call op (logOf s.history call) p := by
  by_cases hlt : call < s.calls
  · refine Or.inr ?_
    by_cases hmem : call ∈ s.frames.map (·.call)
    · obtain ⟨f, hf, rfl⟩ := List.mem_map.mp hmem
      exact ⟨_, _, h.sound.traced f hf⟩
    · obtain ⟨op, htraced⟩ := h.sound.ended call hlt hmem
      exact ⟨op, _, htraced⟩
  · exact Or.inl (h.sound.logOf_eq_nil (Nat.le_of_not_lt hlt))

/-- In every run, every call obeys the contracts that all operations keep. -/
theorem Reachable.obeys {P : Contract} (hP : ∀ op, Keeps P op) (h : Reachable rule s)
    (call : Nat) : Obeys P (logOf s.history call) := by
  rcases h.exists_traced call with hnil | ⟨op, p, htraced⟩
  · rw [hnil]
    trivial
  · exact (htraced.obeys (hP op)).1

/-- A call that has a lock is going on. -/
theorem Reachable.running_of_held (h : Reachable rule s) {c : Nat} {lock : Lock}
    (hc : lock ∈ held (logOf s.history c)) : ∃ f ∈ s.frames, f.call = c := by
  by_cases hmem : c ∈ s.frames.map (·.call)
  · exact List.mem_map.mp hmem
  by_cases hlt : c < s.calls
  · obtain ⟨op, htraced⟩ := h.sound.ended c hlt hmem
    rw [htraced.held_eq_nil] at hc
    cases hc
  · rw [h.sound.logOf_eq_nil (Nat.le_of_not_lt hlt)] at hc
    cases hc

/-- A lock is had by at most one call. -/
theorem Reachable.exclusive (h : Reachable rule s) {c c' : Nat} {lock : Lock}
    (hc : lock ∈ held (logOf s.history c)) (hc' : lock ∈ held (logOf s.history c')) : c = c' := by
  obtain ⟨f, hf, rfl⟩ := h.running_of_held hc
  obtain ⟨g, hg, rfl⟩ := h.running_of_held hc'
  exact h.sound.exclusive f hf g hg lock hc hc'

/-! ## Induction on histories -/

/-- Something that can happen next in a state of a run. -/
structure Next (rule : Rule) (s : State) (x : Occurrence) : Prop where
  objects : x.objects = s.objects
  /-- The log of the call goes on as a log of its operation. -/
  traced : ∃ p, Traced x.call x.operation (x :: logOf s.history x.call) p
  /-- A lock is taken only while no call has it. -/
  free : ∀ lock, x.deed = .took lock → ∀ c, lock ∉ held (logOf s.history c)
  /-- What has happened stays so. -/
  reachable : ∃ s', Reachable rule s' ∧ s'.history = x :: s.history ∧
    s'.objects = x.deed.apply s.objects
  /-- A call begins once, if the rule allows its operation. -/
  begun : logOf s.history x.call = [] → x.deed = .begun ∧ rule s.objects s.history x.operation
  begun_only : x.deed = .begun → logOf s.history x.call = []

namespace Next

variable {x : Occurrence}

/-- The next deed of a call obeys the contract of its operation. -/
theorem obeys {P : Contract} (hP : ∀ op, Keeps P op) (h : Next rule s x) :
    P x (logOf s.history x.call) := by
  obtain ⟨p, htraced⟩ := h.traced
  exact (htraced.obeys (hP _)).1.1

theorem valid (h : Next rule s x) : x.operation.Valid s.objects := by
  obtain ⟨p, htraced⟩ := h.traced
  rw [← h.objects]
  exact htraced.valid

/-- What a call knows is so when it goes on. -/
theorem agrees (h : Next rule s x) : Agrees (logOf s.history x.call) x.objects := by
  obtain ⟨p, htraced⟩ := h.traced
  generalize hlog : x :: logOf s.history x.call = log at htraced
  cases htraced with
  | begun =>
    rw [(List.cons.inj hlog).2]
    intro lock part hpart
    cases hpart
  | deed _ _ sees =>
    obtain ⟨hx, hlog⟩ := List.cons.inj hlog
    rw [hlog, hx]
    exact sees.agrees

end Next

theorem Next.of_begin (hs : Reachable rule s) {thread : Nat} {op : Operation}
    (hturn : s.ClientTurn thread) (hvalid : op.Valid s.objects)
    (hallowed : rule s.objects s.history op) :
    Next rule s ⟨s.calls, op, .begun, s.objects⟩ where
  objects := rfl
  traced := by
    rw [hs.sound.logOf_eq_nil (Nat.le_refl _)]
    exact ⟨_, .begun hvalid⟩
  free := fun lock hlock => by cases hlock
  reachable := ⟨_, hs.step (.begin thread hturn hvalid hallowed), rfl, rfl⟩
  begun := fun _ => ⟨rfl, hallowed⟩
  begun_only := fun _ => hs.sound.logOf_eq_nil (Nat.le_refl _)

theorem Next.of_move (hs : Reachable rule s) {before after : List Frame} {frame : Frame}
    {deed : Deed} {progress : Progress} (hframes : s.frames = before ++ frame :: after)
    (hinnermost : ∀ other ∈ before, other.thread ≠ frame.thread)
    (hdoes : frame.progress.Does s.objects deed progress)
    (hfree : ∀ lock, deed = .took lock → s.Free lock) :
    Next rule s ⟨frame.call, frame.operation, deed, s.objects⟩ := by
  have hmem : frame ∈ s.frames := by
    rw [hframes]
    exact List.mem_append_right _ List.mem_cons_self
  have htraced := hs.sound.traced frame hmem
  constructor
  case objects => rfl
  case traced =>
    exact ⟨_, .deed htraced hdoes ⟨hs.sound.valid frame hmem, hs.sound.agrees frame hmem⟩⟩
  case free =>
    intro lock hlock c hc
    have hstep := hs.step (.move hframes hinnermost hdoes hfree)
    by_cases hcall : c = frame.call
    · rw [hcall] at hc
      exact hfree lock hlock frame hmem hc
    · have hother : lock ∈ held (logOf (s.move before frame after deed progress).history c) := by
        rw [State.move, logOf_cons_of_ne (Ne.symm hcall)]
        exact hc
      refine hcall (hstep.exclusive hother ?_)
      rw [State.move, logOf_cons_self rfl, held]
      simp only [show deed = .took lock from hlock]
      exact List.mem_cons_self
  case reachable => exact ⟨_, hs.step (.move hframes hinnermost hdoes hfree), rfl, rfl⟩
  case begun =>
    intro hnil
    rw [show logOf s.history frame.call = [] from hnil] at htraced
    cases htraced
  case begun_only =>
    intro hdeed
    rw [show deed = .begun from hdeed] at hdoes
    generalize frame.progress = p at hdoes
    cases hdoes

/-- What holds before anything has happened, and goes on to hold whatever happens next, holds in
every state that a run comes to. -/
theorem Reachable.induct {I : Objects → History → Prop} (start : I .empty [])
    (next : ∀ s x, Reachable rule s → Next rule s x → I s.objects s.history →
      I (x.deed.apply s.objects) (x :: s.history))
    (h : Reachable rule s) : I s.objects s.history := by
  induction h with
  | initial => exact start
  | @step s s' hs hstep ih =>
    cases hstep with
    | begin thread turn valid allowed =>
      exact next s _ hs (.of_begin hs turn valid allowed) ih
    | move frames innermost does free =>
      exact next s _ hs (.of_move hs frames innermost does free) ih

end Hostlink.Interleaving
