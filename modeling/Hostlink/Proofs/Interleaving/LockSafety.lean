import Mathlib.Logic.Relation
import Hostlink.Proofs.Interleaving.LockOrder
import Hostlink.Proofs.Interleaving.Schedule

/-!
# No thread waits for ever

Locks are not reentrant, and client code may use the library again while the library waits for it.
Most client code is called without locks, so it may use everything.  Two kinds of it are called under
a lock and have to restrain themselves: what registers a native callback may only add to events, and
a close may not use the library at all.

In runs with such clients (`Disciplined`) no thread takes a lock twice, and a thread that waits for a
lock waits for a thread that goes on, or at worst for one that waits for the handlers of an event.
-/

namespace Hostlink

/-- What the client may begin when it is called.  To make a callback of its own is no use of the
library. -/
def Upcall.Permits (op : Operation) : Upcall → Prop
  | .register _ _ => op.Adds
  | .close _ => op = .makeFunction
  | .invoke _ _ | .convert _ _ | .unregister _ _ => True

/-- Whether the client's code that is called may do everything: it is a callback, a converter, a
handler or a hook. -/
def Upcall.Unrestrained : Upcall → Prop
  | .register _ _ | .close _ => False
  | .invoke _ _ | .convert _ _ | .unregister _ _ => True

instance : (op : Operation) → Decidable op.Adds
  | .makeFunction | .add _ _ => .isTrue trivial
  | .invoke _ _ | .makeEvent | .remove _ _ | .raise _ _ | .count _ | .clear _ | .makeBridge
  | .registerMember _ _ _ | .attach _ _ _ _ _ | .tryDetach _ _ _ | .detachFrom _ _ _ _
  | .releaseAll _ | .len _ _ | .totalLen _ | .isEmpty _ | .isReleased _ | .showBridge _
  | .makeWrapper _ _ | .dispose _ | .drop _ | .isDisposed _ | .ensureLive _ => .isFalse id

instance (op : Operation) : (upcall : Upcall) → Decidable (upcall.Permits op)
  | .register _ _ => inferInstanceAs (Decidable op.Adds)
  | .close _ => inferInstanceAs (Decidable (op = .makeFunction))
  | .invoke _ _ | .convert _ _ | .unregister _ _ => .isTrue trivial

/-- What is begun by code that is under restraint does not call the client again. -/
theorem Upcall.unrestrained_of_asks {upcall other : Upcall} {op : Operation}
    (h : upcall.Permits op) (hasks : op.Asks other) : upcall.Unrestrained := by
  cases upcall with
  | register code native => exact absurd hasks (Operation.Adds.not_asks h other)
  | close native => exact absurd hasks ((Operation.adds_of_eq h).not_asks other)
  | invoke | convert | unregister => trivial

theorem Upcall.Unrestrained.permits {upcall : Upcall} (h : upcall.Unrestrained) (op : Operation) :
    upcall.Permits op := by
  cases upcall with
  | register | close => cases h
  | invoke | convert | unregister => trivial

theorem Upcall.Unrestrained.meets {upcall : Upcall} (h : upcall.Unrestrained) {locks : List Lock}
    (hmeets : upcall.Meets locks) : locks = [] := by
  cases upcall with
  | register | close => cases h
  | invoke | convert | unregister => exact hmeets

namespace Interleaving

/-! ## Disciplined clients -/

/-- The call of the client that has not been answered. -/
def Progress.upcall? : Progress → Option Upcall
  | .waiting upcall _ => some upcall
  | _ => none

/-- The lock that a call is about to take. -/
def Progress.wants : Progress → Option Lock
  | .running (.acquire lock _) => some lock
  | _ => none

/-- Whether the innermost call of a thread lets the client begin an operation. -/
def State.Permits (s : State) (thread : Nat) (op : Operation) : Prop :=
  ∀ frame ∈ s.frames.find? (·.thread = thread), ∀ upcall ∈ frame.progress.upcall?, upcall.Permits op

instance (s : State) (thread : Nat) (op : Operation) : Decidable (s.Permits thread op) :=
  inferInstanceAs (Decidable (∀ frame ∈ s.frames.find? (·.thread = thread),
    ∀ upcall ∈ frame.progress.upcall?, upcall.Permits op))

/-- The states that runs can come to whose client begins only what it may begin. -/
inductive Disciplined : State → Prop
  | initial : Disciplined .initial
  | step {s s' : State} (hs : Disciplined s) (hstep : Step .any s s')
    (permitted : ∀ thread op, s' = s.begin thread op → s.Permits thread op) : Disciplined s'

variable {s : State}

theorem Disciplined.reachable (h : Disciplined s) : Reachable .any s := by
  induction h with
  | initial => exact .initial
  | step _ hstep _ ih => exact ih.step hstep

/-- The state after a choice, if the client may make it. -/
def State.heed (s : State) : Choice → State
  | .begin thread op => if s.Permits thread op then s.choose .any (.begin thread op) else s
  | choice => s.choose .any choice

/-- A deed begins no call, so there is nothing to be permitted. -/
theorem Disciplined.advance (hs : Disciplined s) (thread : Nat)
    {choose : Progress → Option (Deed × Progress)}
    (hchoose : ∀ {p p' deed}, choose p = some (deed, p') → p.Does s.objects deed p') :
    Disciplined (s.advance thread choose) := by
  rcases s.step_of_advance .any thread hchoose with hsame | hstep
  · rw [hsame]
    exact hs
  · refine hs.step hstep fun thread' op hbegin => ?_
    have hcalls : (s.advance thread choose).calls = s.calls := by
      unfold State.advance
      split
      · rfl
      · split
        · rfl
        · split <;> rfl
    rw [hbegin] at hcalls
    exact absurd hcalls (Nat.succ_ne_self _)

theorem Disciplined.heed (hs : Disciplined s) (choice : Choice) : Disciplined (s.heed choice) := by
  cases choice with
  | begin thread op =>
    unfold State.heed State.choose
    dsimp only
    split
    next hpermits =>
      split
      next h =>
        refine hs.step (.begin thread h.1 h.2.1 h.2.2) fun thread' op' hbegin => ?_
        have hframes := congrArg (fun s : State => s.frames.head?) hbegin
        obtain ⟨rfl, rfl, _⟩ : thread = thread' ∧ op = op' ∧ op.activity = op'.activity := by
          simpa [State.begin] using hframes
        exact hpermits
      next => exact hs
    next => exact hs
  | go thread => exact hs.advance thread Progress.does_of_go
  | answer thread closed => exact hs.advance thread Progress.does_of_answer
  | fail thread message => exact hs.advance thread Progress.does_of_fail

theorem Disciplined.follow (hs : Disciplined s) (schedule : List Choice) :
    Disciplined (schedule.foldl State.heed s) := by
  induction schedule generalizing s with
  | nil => exact hs
  | cons choice rest ih => exact ih (hs.heed choice)

/-! ## The calls of one thread -/

/-- Whether of two calls of one thread the outer one waits for the client, whom it lets begin the
inner one. -/
def Nested (frames : List Frame) : Prop :=
  frames.Pairwise fun inner outer => outer.thread = inner.thread →
    ∃ upcall ∈ outer.progress.upcall?, upcall.Permits inner.operation

theorem Nested.permitted {before after : List Frame} {f g : Frame}
    (h : Nested (before ++ f :: after)) (hg : g ∈ after) (hthread : g.thread = f.thread) :
    ∃ upcall ∈ g.progress.upcall?, upcall.Permits f.operation :=
  (List.pairwise_cons.mp (List.pairwise_append.mp h).2.1).1 g hg hthread

theorem Frame.of_mem_advance {frame f : Frame} {progress : Progress}
    (h : f ∈ frame.advance progress) :
    f.thread = frame.thread ∧ f.operation = frame.operation := by
  cases progress with
  | ended => cases h
  | running rest => rw [List.mem_singleton.mp h]; exact ⟨rfl, rfl⟩
  | waiting upcall next => rw [List.mem_singleton.mp h]; exact ⟨rfl, rfl⟩

/-- What the innermost call of a thread does leaves the outer ones. -/
theorem Nested.advance {before after : List Frame} {frame : Frame} (h : Nested (before ++ frame :: after))
    (innermost : ∀ other ∈ before, other.thread ≠ frame.thread) (progress : Progress) :
    Nested (before ++ (frame.advance progress ++ after)) := by
  obtain ⟨hbefore, hrest, hcross⟩ := List.pairwise_append.mp h
  obtain ⟨hframe, hafter⟩ := List.pairwise_cons.mp hrest
  refine List.pairwise_append.mpr ⟨hbefore, List.pairwise_append.mpr ⟨?_, hafter, ?_⟩, ?_⟩
  · cases progress with
    | ended => exact List.Pairwise.nil
    | running rest => exact List.pairwise_singleton _ _
    | waiting upcall next => exact List.pairwise_singleton _ _
  · intro inner hinner outer houter hthread
    obtain ⟨hsame, hop⟩ := Frame.of_mem_advance hinner
    rw [hop]
    exact hframe outer houter (hthread.trans hsame)
  · intro inner hinner outer houter hthread
    rcases List.mem_append.mp houter with hin | hin
    · exact absurd (hthread.symm.trans (Frame.of_mem_advance hin).1) (innermost inner hinner)
    · exact hcross inner hinner outer (List.mem_cons_of_mem _ hin) hthread

/-- A call that waits was made by an operation that makes such calls, with the locks that they are
made with. -/
theorem Reachable.asks_of_upcall {rule : Rule} (hs : Reachable rule s) {f : Frame}
    (hf : f ∈ s.frames) {upcall : Upcall} (hupcall : upcall ∈ f.progress.upcall?) :
    f.operation.Asks upcall ∧ upcall.Meets (held (logOf s.history f.call)) := by
  have htraced := hs.sound.traced f hf
  have hordering := (htraced.obeys (keeps_ordering _)).1
  have habiding := (htraced.obeys (keeps_abiding _)).1
  cases hp : f.progress with
  | waiting other next =>
    rw [hp] at htraced hupcall
    obtain rfl : other = upcall := Option.some.inj hupcall
    obtain ⟨o, rest, hlog⟩ := htraced.asked_of_waiting
    rw [hlog] at hordering habiding ⊢
    exact ⟨habiding.1, hordering.1⟩
  | running rest => rw [hp] at hupcall; cases hupcall
  | ended => rw [hp] at hupcall; cases hupcall

/-- A call that is about to take a lock may take it. -/
theorem Reachable.mayTake_of_wants {rule : Rule} (hs : Reachable rule s) {f : Frame}
    (hf : f ∈ s.frames) {lock : Lock} (hlock : lock ∈ f.progress.wants) :
    f.operation.MayTake (held (logOf s.history f.call)) lock := by
  have hconforms := ((hs.sound.traced f hf).obeys (keeps_ordering _)).2
  have hsees : Sees f.operation (logOf s.history f.call) s.objects :=
    ⟨hs.sound.valid f hf, hs.sound.agrees f hf⟩
  unfold Progress.wants at hlock
  split at hlock
  next other next hp =>
    obtain rfl : other = lock := Option.some.inj hlock
    rw [hp] at hconforms
    exact (hconforms s.objects hsees).1
  next => cases hlock

/-- All calls of a thread let the client begin what its innermost call lets it begin. -/
theorem Reachable.permits_of_nested {rule : Rule} (hs : Reachable rule s) (h : Nested s.frames)
    {thread : Nat} {op : Operation} (turn : s.ClientTurn thread) (permitted : s.Permits thread op)
    {outer : Frame} (houter : outer ∈ s.frames) (hthread : outer.thread = thread) :
    ∃ upcall ∈ outer.progress.upcall?, upcall.Permits op := by
  have hfound : (s.frames.find? (·.thread = thread)).isSome :=
    List.find?_isSome.mpr ⟨outer, houter, decide_eq_true hthread⟩
  obtain ⟨f, hf⟩ := Option.isSome_iff_exists.mp hfound
  obtain ⟨upcall, hupcall⟩ : ∃ upcall, upcall ∈ f.progress.upcall? := by
    have hwaits := turn f hf
    cases hp : f.progress with
    | waiting upcall next => exact ⟨upcall, rfl⟩
    | running rest => rw [hp] at hwaits; cases hwaits
    | ended => rw [hp] at hwaits; cases hwaits
  obtain ⟨hthread', before, after, hsplit, hbefore⟩ := List.find?_eq_some_iff_append.mp hf
  have hmem : f ∈ s.frames := by rw [hsplit]; simp
  rw [hsplit] at houter h
  rcases List.mem_append.mp houter with hin | hin
  · exact absurd hthread (by simpa using hbefore outer hin)
  rcases List.mem_cons.mp hin with rfl | hin
  · exact ⟨upcall, hupcall, permitted _ hf upcall hupcall⟩
  · -- the call inside of it has called the client, so it was begun without restraint
    obtain ⟨other, hother, hallows⟩ :=
      h.permitted hin (hthread.trans (of_decide_eq_true hthread').symm)
    have hasks := (hs.asks_of_upcall hmem hupcall).1
    exact ⟨other, hother, (Upcall.unrestrained_of_asks hallows hasks).permits op⟩

/-- The outer calls of a thread wait for the client. -/
theorem Disciplined.nested (hs : Disciplined s) : Nested s.frames := by
  induction hs with
  | initial => exact List.Pairwise.nil
  | @step s s' hs hstep permitted ih =>
    cases hstep with
    | @begin thread op turn valid allowed =>
      refine List.Pairwise.cons (fun outer houter hthread => ?_) ih
      exact hs.reachable.permits_of_nested ih turn (permitted thread op rfl) houter hthread
    | @move before frame after deed progress hframes innermost does free =>
      rw [hframes] at ih
      exact ih.advance innermost progress

/-- The locks of an outer call: none, or the call inside of it is under restraint. -/
theorem Disciplined.locks_of_outer (hs : Disciplined s) {before after : List Frame} {f g : Frame}
    (hframes : s.frames = before ++ f :: after) (hg : g ∈ after) (hthread : g.thread = f.thread) :
    held (logOf s.history g.call) = [] ∨
    (f.operation.Adds ∧ ∃ b, held (logOf s.history g.call) = [.table b]) ∨
    f.operation = .makeFunction := by
  have hnested := hs.nested
  rw [hframes] at hnested
  obtain ⟨upcall, hupcall, hpermits⟩ := hnested.permitted hg hthread
  have hmem : g ∈ s.frames := by rw [hframes]; simp [hg]
  have hmeets := (hs.reachable.asks_of_upcall hmem hupcall).2
  cases upcall with
  | register code native => exact Or.inr (Or.inl ⟨hpermits, hmeets⟩)
  | close native => exact Or.inr (Or.inr hpermits)
  | invoke | convert | unregister => exact Or.inl hmeets

/-- The calls of a thread that is about to take a lock are that call and outer ones. -/
theorem Disciplined.split_of_wants (hs : Disciplined s) {f g : Frame} (hf : f ∈ s.frames)
    {lock : Lock} (hlock : lock ∈ f.progress.wants) (hg : g ∈ s.frames)
    (hthread : g.thread = f.thread) :
    g = f ∨ ∃ before after, s.frames = before ++ f :: after ∧ g ∈ after := by
  obtain ⟨before, after, hframes⟩ := List.append_of_mem hf
  rw [hframes] at hg
  rcases List.mem_append.mp hg with hin | hin
  · have hnested := hs.nested
    unfold Nested at hnested
    rw [hframes] at hnested
    obtain ⟨upcall, hupcall, _⟩ :=
      (List.pairwise_append.mp hnested).2.2 g hin f List.mem_cons_self hthread.symm
    -- a call that waits is not about to take a lock
    cases hp : f.progress with
    | waiting other next => rw [hp] at hlock; cases hlock
    | running rest => rw [hp] at hupcall; cases hupcall
    | ended => rw [hp] at hupcall; cases hupcall
  · rcases List.mem_cons.mp hin with rfl | hin
    · exact Or.inl rfl
    · exact Or.inr ⟨before, after, hframes, hin⟩

/-- A thread that is about to take a lock and has another one has the lock of a table, and is about
to take that of an event, to add to it. -/
theorem Disciplined.order_of_wants (hs : Disciplined s) {f g : Frame} (hf : f ∈ s.frames)
    {lock : Lock} (hlock : lock ∈ f.progress.wants) (hg : g ∈ s.frames)
    (hthread : g.thread = f.thread) {other : Lock}
    (hother : other ∈ held (logOf s.history g.call)) :
    (∃ b, other = .table b) ∧ (∃ e, lock = .handlers e) ∧
      (f.operation.Adds ∨ ∃ b key callback converter registrar,
        f.operation = .attach b key callback converter registrar) := by
  have htake := hs.reachable.mayTake_of_wants hf hlock
  have hadds : ∀ {locks}, f.operation.MayTake locks lock → f.operation.Adds →
      ∃ e, lock = .handlers e := by
    intro locks htake hadds
    rcases htake with ⟨_, htakes⟩ | ⟨_, _, _, _, _, hop, _, _⟩
    · cases hop : f.operation with
      | makeFunction => rw [hop] at htakes; cases htakes
      | add e handler => rw [hop] at htakes; exact ⟨e, htakes⟩
      | _ => rw [hop] at hadds; cases hadds
    · rw [hop] at hadds
      cases hadds
  rcases hs.split_of_wants hf hlock hg hthread with rfl | ⟨before, after, hframes, hin⟩
  · rcases htake with ⟨hnone, _⟩ | ⟨b, key, callback, converter, e, hop, htable, rfl⟩
    · rw [hnone] at hother
      cases hother
    · rw [htable] at hother
      exact ⟨⟨b, List.mem_singleton.mp hother⟩, ⟨e, rfl⟩,
        Or.inr ⟨b, key, callback, converter, _, hop⟩⟩
  · rcases hs.locks_of_outer hframes hin hthread with hnone | ⟨hop, b, htable⟩ | hop
    · rw [hnone] at hother
      cases hother
    · rw [htable] at hother
      exact ⟨⟨b, List.mem_singleton.mp hother⟩, hadds htake hop, Or.inl hop⟩
    · rcases htake with ⟨_, htakes⟩ | ⟨_, _, _, _, _, hop', _, _⟩
      · rw [hop] at htakes
        cases htakes
      · rw [hop] at hop'
        cases hop'

/-! ## Waiting -/

/-- Whether a thread is about to take a lock that another one has. -/
def State.WaitsFor (s : State) (thread other : Nat) : Prop :=
  ∃ f ∈ s.frames, f.thread = thread ∧ ∃ lock ∈ f.progress.wants,
    ∃ g ∈ s.frames, g.thread = other ∧ lock ∈ held (logOf s.history g.call)

instance (s : State) (thread other : Nat) : Decidable (s.WaitsFor thread other) :=
  inferInstanceAs (Decidable (∃ f ∈ s.frames, f.thread = thread ∧ ∃ lock ∈ f.progress.wants,
    ∃ g ∈ s.frames, g.thread = other ∧ lock ∈ held (logOf s.history g.call)))

/-- Of three threads that would wait for each other in a row, the last one does not wait. -/
theorem Disciplined.not_waitsFor (hs : Disciplined s) {t u v : Nat} (htu : s.WaitsFor t u)
    (huv : s.WaitsFor u v) (w : Nat) : ¬ s.WaitsFor v w := by
  rintro ⟨f₃, hf₃, hthread₃, lock₃, hlock₃, -⟩
  obtain ⟨f₁, hf₁, -, lock₁, hlock₁, g₁, hg₁, hgu, hheld₁⟩ := htu
  obtain ⟨f₂, hf₂, hfu, lock₂, hlock₂, g₂, hg₂, hgv, hheld₂⟩ := huv
  have hhandlers := (hs.order_of_wants hf₂ hlock₂ hg₁ (hgu.trans hfu.symm) hheld₁).2.1
  have htable := (hs.order_of_wants hf₃ hlock₃ hg₂ (hgv.trans hthread₃.symm) hheld₂).1
  obtain ⟨e, rfl⟩ := hhandlers
  obtain ⟨b, hb⟩ := htable
  cases hb

/-- What can be left of itself in some steps can be left in one, to where it comes back. -/
private theorem exists_next_of_cycle {α : Type} {r : α → α → Prop} {a : α}
    (h : Relation.TransGen r a a) : ∃ b, r a b ∧ Relation.TransGen r b b := by
  obtain ⟨b, hab, hba⟩ := Relation.TransGen.head'_iff.mp h
  exact ⟨b, hab, Relation.TransGen.tail' hba hab⟩

/-! ## The result -/

/-- What lock safety means in a state. -/
structure LockSafe (s : State) : Prop where
  /-- No thread is about to take a lock that one of its calls has. -/
  fresh : ∀ f ∈ s.frames, ∀ lock ∈ f.progress.wants, ∀ g ∈ s.frames, g.thread = f.thread →
    lock ∉ held (logOf s.history g.call)
  /-- While a callback, a converter, a handler or a hook of the client runs, its thread has no lock. -/
  unlocked : ∀ before f after, s.frames = before ++ f :: after →
    (∀ other ∈ before, other.thread ≠ f.thread) →
    ∀ upcall ∈ f.progress.upcall?, upcall.Unrestrained →
    ∀ g ∈ s.frames, g.thread = f.thread → held (logOf s.history g.call) = []
  /-- Nor has it one when a hook begins that removes a callback from an event. -/
  hooks : ∀ f ∈ s.frames, ∀ b, f.operation.Releases b → ∀ e, .handlers e ∈ f.progress.wants →
    ∀ g ∈ s.frames, g.thread = f.thread → held (logOf s.history g.call) = []
  /-- No threads wait for each other in a cycle, -/
  acyclic : ∀ thread, ¬ Relation.TransGen s.WaitsFor thread thread
  /-- for of three in a row the last one does not wait. -/
  short : ∀ t u v, s.WaitsFor t u → s.WaitsFor u v → ∀ w, ¬ s.WaitsFor v w

/-- In every run with disciplined clients locks are safe. -/
theorem locks_safe (hs : Disciplined s) : LockSafe s := by
  constructor
  case fresh =>
    intro f hf lock hlock g hg hthread hheld
    obtain ⟨⟨b, rfl⟩, ⟨e, he⟩, _⟩ := hs.order_of_wants hf hlock hg hthread hheld
    cases he
  case unlocked =>
    intro before f after hframes innermost upcall hupcall hfree g hg hthread
    have hf : f ∈ s.frames := by rw [hframes]; simp
    obtain ⟨hasks, hmeets⟩ := hs.reachable.asks_of_upcall hf hupcall
    rw [hframes] at hg
    rcases List.mem_append.mp hg with hin | hin
    · exact absurd hthread (innermost g hin)
    rcases List.mem_cons.mp hin with rfl | hin
    · exact hfree.meets hmeets
    rcases hs.locks_of_outer hframes hin hthread with hnone | ⟨hop, _⟩ | hop
    · exact hnone
    · exact absurd hasks (hop.not_asks upcall)
    · exact absurd hasks ((Operation.adds_of_eq hop).not_asks upcall)
  case hooks =>
    intro f hf b hop e hlock g hg hthread
    refine List.eq_nil_iff_forall_not_mem.mpr fun lock hheld => ?_
    rcases (hs.order_of_wants hf hlock hg hthread hheld).2.2 with hadds | ⟨_, _, _, _, _, hattach⟩
    · rcases hop with hop | ⟨w, _, hop | hop⟩ <;> rw [hop] at hadds <;> cases hadds
    · rcases hop with hop | ⟨w, _, hop | hop⟩ <;> rw [hop] at hattach <;> cases hattach
  case acyclic =>
    intro thread hcycle
    obtain ⟨u, htu, hcycle⟩ := exists_next_of_cycle hcycle
    obtain ⟨v, huv, hcycle⟩ := exists_next_of_cycle hcycle
    obtain ⟨w, hvw, _⟩ := exists_next_of_cycle hcycle
    exact hs.not_waitsFor htu huv w hvw
  case short => exact fun t u v htu huv w => hs.not_waitsFor htu huv w

/-- A run of three threads: the first one attaches, and its registration is about to add to an event
that the second one is raising; the third one waits for the table. -/
def waitingInARow : List Choice :=
  let b := BridgeId.standalone 0
  let e : EventId := ⟨0⟩
  let key : MemberKey := ⟨"value_changed", .int, .int⟩
  .begin 0 .makeBridge :: goOn 0 2 ++
  .begin 0 .makeEvent :: goOn 0 2 ++
  .begin 0 .makeFunction :: goOn 0 2 ++
  .begin 0 (.attach b key ⟨0⟩ (.client 0) (.client 1)) :: goOn 0 4 ++
  .begin 1 (.raise e (.int 7)) :: goOn 1 1 ++
  [.begin 0 (.dispose ⟨0⟩), .begin 0 (.add e ⟨1⟩), .begin 2 (.tryDetach b key ⟨0⟩)]

theorem locks_safe_waiting :
    let s := waitingInARow.foldl State.heed .initial
    Disciplined s ∧ LockSafe s ∧ s.WaitsFor 2 0 ∧ s.WaitsFor 0 1 ∧
      s.frames.map (·.thread) = [2, 0, 1, 0] := by
  have hs : Disciplined (waitingInARow.foldl State.heed .initial) :=
    Disciplined.initial.follow waitingInARow
  refine ⟨hs, locks_safe hs, ?_⟩
  decide +kernel

end Interleaving
end Hostlink
